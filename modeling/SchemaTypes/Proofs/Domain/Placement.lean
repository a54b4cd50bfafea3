import SchemaTypes.Proofs.Domain.Grouping
import SchemaTypes.Proofs.File.Agreement

/-!
# Domains of the schema files beside the main one

Each schema file beside the main one names a domain, and files whose names differ in case only name the
same. A model is at home in one of them (`Home`): where several begin its name, in the shortest. The rule
itself takes the first in order, but of texts that begin one text a shorter one comes before a longer one
(`le_iff_length_le`). The order in which the directory lists its files does not matter, as they are
sorted (`beside_relisted`).
-/

namespace SchemaTypes

namespace Text
variable {names : List String} {cs : List Char} {a b x : String} {p : String → Bool}

theorem le_of_isPrefix (h : a.toList <+: b.toList) : a ≤ b := by
  obtain ⟨rest, hrest⟩ := h
  refine String.not_lt.1 fun hlt => ?_
  rw [String.lt_iff, ← hrest] at hlt
  exact List.not_lt.2 List.le_append_left hlt

theorem le_iff_length_le (ha : a.toList <+: cs) (hb : b.toList <+: cs) : a ≤ b ↔ a.length ≤ b.length := by
  rw [← String.length_toList, ← String.length_toList]
  constructor
  · intro h
    by_contra hlt
    have hba : b.toList <+: a.toList := List.prefix_of_prefix_length_le hb ha (by omega)
    exact hlt (le_of_eq (congrArg (fun s => s.toList.length) (String.le_antisymm h (le_of_isPrefix hba))))
  · intro h
    exact le_of_isPrefix (List.prefix_of_prefix_length_le ha hb h)

theorem find?_eq_some_of_sorted (hs : names.Pairwise (· < ·)) :
    names.find? p = some x ↔ x ∈ names ∧ p x ∧ ∀ y ∈ names, p y → x ≤ y := by
  induction names with
  | nil => simp
  | cons n names ih =>
    obtain ⟨hn, hs⟩ := List.pairwise_cons.1 hs
    rw [List.find?_cons]
    cases hp : p n with
    | true =>
      constructor
      · rintro ⟨⟩
        refine ⟨List.mem_cons_self, hp, fun y hy _ => ?_⟩
        rcases List.mem_cons.1 hy with rfl | hy
        · exact String.le_refl _
        · exact String.not_lt.1 (String.lt_asymm (hn y hy))
      · rintro ⟨hx, -, hleast⟩
        rcases List.mem_cons.1 hx with rfl | hx
        · rfl
        · exact absurd (hn x hx) (String.not_lt.2 (hleast n List.mem_cons_self hp))
    | false =>
      have hne : ∀ y, p y → y ≠ n := by
        rintro y hy rfl
        rw [hp] at hy
        cases hy
      dsimp only
      rw [ih hs]
      constructor
      · rintro ⟨hx, hpx, hleast⟩
        refine ⟨List.mem_cons_of_mem n hx, hpx, fun y hy hpy => ?_⟩
        exact hleast y ((List.mem_cons.1 hy).resolve_left (hne y hpy)) hpy
      · rintro ⟨hx, hpx, hleast⟩
        exact ⟨(List.mem_cons.1 hx).resolve_left (hne x hpx), hpx,
          fun y hy hpy => hleast y (List.mem_cons_of_mem n hy) hpy⟩

theorem pairwise_sortedOnce (xs : List String) : (sortedOnce xs).Pairwise (· < ·) := by
  have hn : (xs.eraseDups.map id).Nodup := by
    rw [List.map_id]
    exact nodup_eraseDups xs
  exact pairwise_lt_sortedBy hn

end Text

/-! ### Directories that are listed in another order -/

namespace FileTree

/-- `u` lists the entries of `t` in another order. -/
structure Relisted (t u : FileTree) : Prop where
  entries : u.entries.Perm t.entries
  agree : t.Agree u

end FileTree

theorem Disk.fileNames_relisted {t u : FileTree} {cwd : Location} (h : t.Relisted u) (p : Path) :
    ((Disk.mk u cwd).fileNames p).Perm ((Disk.mk t cwd).fileNames p) := by
  have htrail : (Disk.mk u cwd).trail p = (Disk.mk t cwd).trail p := rfl
  unfold fileNames
  rw [htrail]
  dsimp only
  rw [← h.agree.walk]
  cases t.walk none [] ((Disk.mk t cwd).trail p) with
  | error => exact List.Perm.refl _
  | ok dir => exact ((h.entries.filterMap _).filter _).map _

namespace Domain

variable {d : Document} {disk : Disk} {schemaPath : String} {names : List String} {m : Model}
  {name file : String}

/-! ### Where a model is at home -/

/-- The name of the model in lower case begins with the text. -/
def Begins (name : String) (m : Model) : Prop := name.toList <+: (Text.lowercase m.name).toList

instance : Decidable (Begins name m) := inferInstanceAs (Decidable (_ <+: _))

/-- The domain of a model, among given names: the shortest one that begins the name of the model; where
none does, the shared one; where that is not there, the first in order. -/
inductive Home (names : List String) (m : Model) : String → Prop
  | begun {name : String} (mem : name ∈ names) (begins : Begins name m)
      (shortest : ∀ other ∈ names, Begins other m → name.length ≤ other.length) : Home names m name
  | shared (none : ∀ other ∈ names, ¬ Begins other m) (mem : shared ∈ names) : Home names m shared
  | first {name : String} (none : ∀ other ∈ names, ¬ Begins other m) (unshared : shared ∉ names)
      (mem : name ∈ names) (first : ∀ other ∈ names, name ≤ other) : Home names m name

theorem Home.length_le {other : String} (h : Home names m name) (hmem : other ∈ names)
    (hbegins : Begins other m) : name.length ≤ other.length := by
  cases h with
  | begun _ _ hshortest => exact hshortest other hmem hbegins
  | shared hnone => exact absurd hbegins (hnone other hmem)
  | first hnone => exact absurd hbegins (hnone other hmem)

theorem head?_eq_some_of_sorted (hs : names.Pairwise (· < ·)) :
    names.head? = some name ↔ name ∈ names ∧ ∀ other ∈ names, name ≤ other := by
  have hhead : names.head? = names.find? fun _ => true := by
    cases names <;> rfl
  rw [hhead, Text.find?_eq_some_of_sorted hs]
  simp

theorem find?_begins_eq_some (hs : names.Pairwise (· < ·)) :
    (names.find? fun n => n.toList.isPrefixOf (Text.lowercase m.name).toList) = some name ↔
      name ∈ names ∧ Begins name m ∧ ∀ other ∈ names, Begins other m → name.length ≤ other.length := by
  rw [Text.find?_eq_some_of_sorted hs]
  simp only [List.isPrefixOf_iff_prefix]
  refine and_congr_right fun _ => and_congr_right fun hbegins => ?_
  exact forall₃_congr fun other _ hother => Text.le_iff_length_le hbegins hother

theorem claim_eq_some (hs : names.Pairwise (· < ·)) : claim names m = some name ↔ Home names m name := by
  have hnone : (names.find? fun n => n.toList.isPrefixOf (Text.lowercase m.name).toList) = none ↔
      ∀ other ∈ names, ¬ Begins other m := by
    simp only [List.find?_eq_none, List.isPrefixOf_iff_prefix, Begins]
  unfold claim
  rw [Option.or_eq_some_iff, find?_begins_eq_some hs, hnone]
  constructor
  · rintro (⟨hmem, hbegins, hshortest⟩ | ⟨hnone, hrest⟩)
    · exact .begun hmem hbegins hshortest
    · split at hrest
      next hshared =>
        cases hrest
        exact .shared hnone (List.contains_iff_mem.1 hshared)
      next hshared =>
        obtain ⟨hmem, hfirst⟩ := (head?_eq_some_of_sorted hs).1 hrest
        exact .first hnone (fun hmem => hshared (List.contains_iff_mem.2 hmem)) hmem hfirst
  · intro h
    cases h with
    | begun hmem hbegins hshortest => exact .inl ⟨hmem, hbegins, hshortest⟩
    | shared hnone hmem => exact .inr ⟨hnone, if_pos (List.contains_iff_mem.2 hmem)⟩
    | first hnone hunshared hmem hfirst =>
      refine .inr ⟨hnone, ?_⟩
      rw [if_neg (mt List.contains_iff_mem.1 hunshared)]
      exact (head?_eq_some_of_sorted hs).2 ⟨hmem, hfirst⟩

/-! ### The domains of a directory -/

/-- A file of this name, with the ending of schema files, is in the directory beside the main one. -/
def HasSchema (disk : Disk) (schemaPath file : String) : Prop :=
  file ∈ disk.fileNames (directoryBeside schemaPath) ∧ (Path.mk .none [file]).ending = schemaEnding

/-- The name of the domain of a schema file: its stem in lower case. -/
def ofSchema (file : String) : String := Text.lowercase (Path.mk .none [file]).stem

/-- The domains beside the main file group the models by their homes. -/
theorem exists_names_beside (d : Document) (disk : Disk) (schemaPath : String) :
    ∃ names : List String, names.Pairwise (· < ·) ∧
      (∀ name, name ∈ names ↔ ∃ file, HasSchema disk schemaPath file ∧ ofSchema file = name) ∧
      (beside d disk schemaPath).map Domain.name = names ∧
      Grouped d (claim names) (beside d disk schemaPath) := by
  refine ⟨_, Text.pairwise_sortedOnce _, fun name => ?_, ?_,
    grouped_map (Text.nodup_sortedOnce _) (fun m _ name hname => claim_mem hname) _⟩
  · have hname (file : String) : (Path.mk (directoryBeside schemaPath).root
        ((directoryBeside schemaPath).names ++ [file])).name = (Path.mk .none [file]).name := by
      rw [Path.name, List.getLast?_append, List.getLast?_singleton]
      rfl
    simp only [Text.mem_sortedOnce, List.mem_map, Text.sorted, Text.mem_sortedBy, List.mem_filter,
      decide_eq_true_eq, HasSchema, ofSchema, Path.ending, Path.stem, hname]
  · exact (List.map_map ..).trans (List.map_id _)

theorem ofFiles_perm {directory : Path} {files files' : List String} (h : files.Perm files') :
    ofFiles d directory files = ofFiles d directory files' := by
  unfold ofFiles
  dsimp only
  rw [Text.sorted_eq_of_perm (h.filter _)]

theorem beside_relisted {u : FileTree} (h : disk.tree.Relisted u) :
    beside d { disk with tree := u } schemaPath = beside d disk schemaPath :=
  ofFiles_perm (Disk.fileNames_relisted h _)

/-- Where there are schema files beside the main one, there is one domain for each of their names, in
order, and each model is in the one where it is at home, and in no other. The order in which the directory
lists its files does not matter. -/
theorem beside_placement (d : Document) (h : HasSchema disk schemaPath file) :
    let domains := beside d disk schemaPath
    let names := domains.map Domain.name
    names.Pairwise (· < ·) ∧
    (∀ name, name ∈ names ↔ ∃ file, HasSchema disk schemaPath file ∧ ofSchema file = name) ∧
    (∀ m ∈ d.models, ∃! g, g ∈ domains ∧ m ∈ g.models) ∧
    (∀ g ∈ domains, g.models.Sublist d.models ∧ ∀ m ∈ g.models, Home names m g.name) ∧
    ∀ u, disk.tree.Relisted u → beside d { disk with tree := u } schemaPath = domains := by
  obtain ⟨names, hs, hmem, hnames, hgroups⟩ := exists_names_beside d disk schemaPath
  have hmodels : ∀ g ∈ beside d disk schemaPath, ∀ m, m ∈ g.models ↔ m ∈ d.models ∧ Home names m g.name := by
    intro g hg m
    rw [hgroups.models g hg, List.mem_filter, decide_eq_true_eq, claim_eq_some hs]
  dsimp only
  rw [hnames]
  refine ⟨hs, hmem, fun m hm => ?_, fun g hg => ⟨?_, fun m hm => ((hmodels g hg m).1 hm).2⟩,
    fun u hu => beside_relisted hu⟩
  · have hne : names ≠ [] := List.ne_nil_of_mem ((hmem _).2 ⟨file, h, rfl⟩)
    obtain ⟨name, hname⟩ := Option.isSome_iff_exists.1 (claim_isSome hne m)
    obtain ⟨g, hg, rfl⟩ := List.mem_map.1 (hgroups.covers m hm name hname)
    refine ⟨g, ⟨hg, (hmodels g hg m).2 ⟨hm, (claim_eq_some hs).1 hname⟩⟩, ?_⟩
    -- a model is at home in one domain, and no two domains have one name
    rintro g' ⟨hg', hm'⟩
    have hsame := (claim_eq_some hs).2 ((hmodels g' hg' m).1 hm').2
    exact List.inj_on_of_nodup_map hgroups.nodup hg' hg (Option.some.inj (hsame.symm.trans hname))
  · rw [hgroups.models g hg]
    exact List.filter_sublist

/-- Of two schema files whose names begin the name of a model, the shorter one has the model. -/
theorem beside_placement_profile :
    let t := (((FileTree.empty.put ["schemas"] .directory rfl (by simp)).put ["schemas", "User.prisma"]
      (.file []) rfl (by decide)).put ["schemas", "US.prisma"] (.file []) rfl (by decide)).put
      ["schemas", "shared.prisma"] (.file []) rfl (by decide)
    let profile : Model := { name := "UserProfile" }
    let d : Document := { models := [profile, { name := "Setting" }] }
    HasSchema { tree := t } "main.prisma" "User.prisma" ∧
      ∃ g ∈ beside d { tree := t } "main.prisma", profile ∈ g.models ∧ g.name = "us" := by
  intro t profile d
  have hfiles : ({ tree := t } : Disk).fileNames (directoryBeside "main.prisma") =
      ["User.prisma", "US.prisma", "shared.prisma"] := by decide
  have huser : HasSchema { tree := t } "main.prisma" "User.prisma" :=
    ⟨hfiles ▸ List.mem_cons_self, by decide⟩
  have hus : HasSchema { tree := t } "main.prisma" "US.prisma" :=
    ⟨hfiles ▸ List.mem_cons_of_mem _ List.mem_cons_self, by decide⟩
  have hbegins : Begins "us" profile := by decide
  obtain ⟨-, hnames, hplace, hhome, -⟩ := beside_placement d huser
  obtain ⟨g, ⟨hg, hm⟩, -⟩ := hplace profile List.mem_cons_self
  have hlength := ((hhome g hg).2 profile hm).length_le ((hnames "us").2 ⟨_, hus, by decide⟩) hbegins
  obtain ⟨file, ⟨hfile, -⟩, hname⟩ := (hnames g.name).1 (List.mem_map_of_mem hg)
  rw [hfiles] at hfile
  refine ⟨huser, g, hg, hm, ?_⟩
  rw [← hname] at hlength ⊢
  -- the other two files have longer names
  simp only [List.mem_cons, List.not_mem_nil, or_false] at hfile
  rcases hfile with rfl | rfl | rfl
  · exact absurd hlength (by decide)
  · decide
  · exact absurd hlength (by decide)

end Domain

end SchemaTypes
