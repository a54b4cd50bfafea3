import Mathlib.Data.List.Permutation
import SchemaTypes.Domain
import SchemaTypes.Proofs.Lookup
import SchemaTypes.Proofs.Sorting

/-!
# Domains as groups

Each of the three rules groups the models by a key: a domain holds the models whose key is its name,
in document order, and no two domains have one name (`Grouped`). A model without a key is in no
domain. The schema files beside the main one give every model a key, and so does the rule of one
group for everything; the locations that models name give a key only to the models that name one.
-/

namespace SchemaTypes

/-- The model names the schema file that declares it. -/
def Model.Located (m : Model) : Prop := ∃ file, m.location = some file ∧ file ≠ ""

namespace Domain

variable {d : Document} {disk : Disk} {schemaPath : Option String} {key : Model → Option String}
  {ds : List Domain}

theorem located?_isSome {m : Model} : (located? m).isSome ↔ m.Located := by
  cases h : m.location <;> simp [located?, Model.Located, h]

/-- The domains `ds` are the models of `d` grouped by a key. -/
structure Grouped (d : Document) (key : Model → Option String) (ds : List Domain) : Prop where
  nodup : (ds.map Domain.name).Nodup
  models : ∀ g ∈ ds, g.models = d.models.filter fun m => key m = some g.name
  covers : ∀ m ∈ d.models, ∀ name, key m = some name → name ∈ ds.map Domain.name

/-! ### What the groups hold -/

theorem flatMap_filter_perm {names : List String} (hn : names.Nodup) (ms : List Model)
    (hk : ∀ m ∈ ms, ∀ name, key m = some name → name ∈ names) :
    (names.flatMap fun name => ms.filter fun m => key m = some name).Perm
      (ms.filter fun m => (key m).isSome) := by
  induction names generalizing ms with
  | nil =>
    have hnone : ∀ m ∈ ms, ¬ (key m).isSome := fun m hm h => by
      obtain ⟨name, hname⟩ := Option.isSome_iff_exists.1 h
      exact absurd (hk m hm name hname) List.not_mem_nil
    rw [List.flatMap_nil, List.filter_eq_nil_iff.2 hnone]
  | cons name names ih =>
    obtain ⟨hname, hn⟩ := List.nodup_cons.1 hn
    -- the other names group the models that `name` does not take
    have hothers := ih hn (ms.filter fun m => !decide (key m = some name)) fun m hm other hother => by
      obtain ⟨hm, hne⟩ := List.mem_filter.1 hm
      rcases List.mem_cons.1 (hk m hm other hother) with rfl | h
      · simp [hother] at hne
      · exact h
    have hsame : (names.flatMap fun other => (ms.filter fun m => !decide (key m = some name)).filter
        fun m => key m = some other) = names.flatMap fun other => ms.filter fun m => key m = some other := by
      refine List.flatMap_congr fun other hother => ?_
      rw [List.filter_filter]
      refine List.filter_congr fun m _ => ?_
      have : other ≠ name := fun h => hname (h ▸ hother)
      by_cases h : key m = some other <;> simp [h, this]
    rw [hsame, List.filter_filter] at hothers
    rw [List.flatMap_cons]
    refine (hothers.append_left _).trans ?_
    have hsplit := List.filter_append_perm (fun m => decide (key m = some name))
      (ms.filter fun m => (key m).isSome)
    rw [List.filter_filter, List.filter_filter] at hsplit
    refine (List.Perm.of_eq ?_).trans hsplit
    congr 1
    · refine List.filter_congr fun m _ => ?_
      by_cases h : key m = some name <;> simp [h]
    · simp only [Bool.and_comm]

/-- The domains hold the models that have a key, each once. -/
theorem Grouped.models_perm (h : Grouped d key ds) :
    (ds.flatMap Domain.models).Perm (d.models.filter fun m => (key m).isSome) := by
  have heq : ds.flatMap Domain.models =
      (ds.map Domain.name).flatMap fun name => d.models.filter fun m => key m = some name := by
    rw [List.flatMap_map]
    exact List.flatMap_congr h.models
  rw [heq]
  exact flatMap_filter_perm h.nodup d.models h.covers

/-! ### The three rules -/

theorem grouped_map {names : List String} (hn : names.Nodup)
    (hk : ∀ m ∈ d.models, ∀ name, key m = some name → name ∈ names) (source : String → Option String) :
    Grouped d key (names.map fun name =>
      { name, models := d.models.filter fun m => key m = some name, source := source name }) := by
  constructor
  · simpa [Function.comp_def] using hn
  · intro g hg
    obtain ⟨name, -, rfl⟩ := List.mem_map.1 hg
    rfl
  · intro m hm name hname
    simpa [Function.comp_def] using hk m hm name hname

theorem grouped_ofLocations : Grouped d (fun m => (located? m).map nameOf) (ofLocations d) := by
  refine grouped_map (Text.nodup_sortedOnce _) (fun m hm name hname => ?_) _
  obtain ⟨file, hfile, rfl⟩ := Option.map_eq_some_iff.1 hname
  rw [Text.mem_sortedOnce]
  exact List.mem_map_of_mem (List.mem_filterMap.2 ⟨m, hm, hfile⟩)

theorem claim_mem {names : List String} {m : Model} {name : String} (h : claim names m = some name) :
    name ∈ names := by
  rcases Option.or_eq_some_iff.1 h with h | ⟨-, h⟩
  · exact List.mem_of_find?_eq_some h
  · split at h
    next hs =>
      cases h
      simpa using hs
    next => exact List.mem_of_head? h

theorem claim_isSome {names : List String} (hn : names ≠ []) (m : Model) : (claim names m).isSome := by
  unfold claim
  split <;> simp [hn]

theorem ofFiles_eq (d : Document) (directory : Path) (files : List String) :
    ∃ (names : List String) (source : String → Option String), names.Nodup ∧
      ofFiles d directory files = names.map fun name =>
        { name, models := d.models.filter fun m => claim names m = some name, source := source name } :=
  ⟨_, _, Text.nodup_sortedOnce _, rfl⟩

theorem grouped_beside (path : String) (hne : beside d disk path ≠ []) :
    ∃ key, Grouped d key (beside d disk path) ∧ ∀ m, (key m).isSome := by
  obtain ⟨names, source, hn, heq⟩ := ofFiles_eq d (directoryBeside path)
    (disk.fileNames (directoryBeside path))
  unfold beside at *
  rw [heq] at hne ⊢
  refine ⟨claim names, grouped_map hn (fun m _ name hname => claim_mem hname) source, ?_⟩
  exact claim_isSome fun h => hne (by rw [h, List.map_nil])

theorem ofLocations_eq_nil : ofLocations d = [] ↔ ∀ m ∈ d.models, ¬ m.Located := by
  constructor
  · intro h m hm hl
    obtain ⟨file, hfile⟩ := Option.isSome_iff_exists.1 (located?_isSome.2 hl)
    have := grouped_ofLocations.covers m hm (nameOf file) (by simp [hfile])
    simp [h] at this
  · intro h
    have hp : d.models.filterMap located? = [] := by
      refine List.filterMap_eq_nil_iff.2 fun m hm => ?_
      simpa using mt located?_isSome.1 (h m hm)
    simp [ofLocations, hp, Text.sortedOnce, Text.sorted, Text.sortedBy]

/-- The domains group the models, and which models have no key. -/
theorem exists_grouped_detect (d : Document) (disk : Disk) (schemaPath : Option String) :
    ∃ key, Grouped d key (detect d disk schemaPath).2 ∧
      ∀ m ∈ d.models, (key m).isSome ↔ m.Located ∨ ∀ n ∈ d.models, ¬ n.Located := by
  unfold detect
  split
  next h =>
    have hnone := ofLocations_eq_nil.1 h
    split
    next x xs hb =>
      obtain ⟨path, -, hb⟩ := Option.map_eq_some_iff.1 hb
      have hne : beside d disk path ≠ [] := by simp [hb]
      obtain ⟨key, hkey, hsome⟩ := grouped_beside path hne
      rw [hb] at hkey
      exact ⟨key, hkey, fun m hm => iff_of_true (hsome m) (.inr hnone)⟩
    next =>
      exact ⟨fun _ => some shared, ⟨by simp, by simp, by simp⟩, fun m hm => iff_of_true rfl (.inr hnone)⟩
  next h =>
    refine ⟨_, grouped_ofLocations, fun m hm => ?_⟩
    rw [Option.isSome_map, located?_isSome]
    have : ¬ ∀ n ∈ d.models, ¬ n.Located := fun hn => h (ofLocations_eq_nil.2 hn)
    simp only [this, or_false]

theorem exists_models_eq_filter {x : Domain} (hx : x ∈ (detect d disk schemaPath).2) :
    ∃ p : Model → Bool, x.models = d.models.filter p := by
  obtain ⟨key, hkey, -⟩ := exists_grouped_detect d disk schemaPath
  exact ⟨_, hkey.models x hx⟩

theorem models_sublist {x : Domain} (hx : x ∈ (detect d disk schemaPath).2) :
    x.models.Sublist d.models := by
  obtain ⟨p, hp⟩ := exists_models_eq_filter hx
  rw [hp]
  exact List.filter_sublist

theorem nodup_names_detect : ((detect d disk schemaPath).2.map Domain.name).Nodup := by
  obtain ⟨key, hkey, -⟩ := exists_grouped_detect d disk schemaPath
  exact hkey.nodup

/-! ### Who is left out -/

/-- Every model is in exactly one domain if and only if all models name a location or none does. -/
theorem models_detect_perm_iff (d : Document) (disk : Disk) (schemaPath : Option String) :
    ((detect d disk schemaPath).2.flatMap Domain.models).Perm d.models ↔
      (∀ m ∈ d.models, m.Located) ∨ ∀ m ∈ d.models, ¬ m.Located := by
  obtain ⟨key, hkey, hsome⟩ := exists_grouped_detect d disk schemaPath
  have hperm := hkey.models_perm
  constructor
  · intro h
    have hlen : (d.models.filter fun m => (key m).isSome).length = d.models.length :=
      (hperm.symm.trans h).length_eq
    have hall : ∀ m ∈ d.models, (key m).isSome :=
      List.filter_eq_self.1 (List.filter_sublist.eq_of_length hlen)
    by_cases hnone : ∀ n ∈ d.models, ¬ n.Located
    · exact .inr hnone
    · exact .inl fun m hm => ((hsome m hm).1 (hall m hm)).resolve_right hnone
  · intro h
    have hall : ∀ m ∈ d.models, (key m).isSome := fun m hm =>
      (hsome m hm).2 (h.imp (fun h => h m hm) id)
    rwa [List.filter_eq_self.2 hall] at hperm

/-- A model without a location is in no domain when another model names one. -/
theorem models_detect_not_perm :
    let billed : Model := { name := "Invoice", location := some "billing.prisma" }
    let unlocated : Model := { name := "Setting" }
    let d : Document := { models := [billed, unlocated] }
    ¬ ((detect d {} none).2.flatMap Domain.models).Perm d.models := by
  intro billed unlocated d h
  have hlen : ((detect d {} none).2.flatMap Domain.models).length = 1 := by cbv
  exact absurd (hlen.symm.trans h.length_eq) (by decide)

end Domain

end SchemaTypes
