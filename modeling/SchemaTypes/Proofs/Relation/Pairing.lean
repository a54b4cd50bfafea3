import Mathlib.Data.Option.Basic
import SchemaTypes.Proofs.Relation.Identifier
import SchemaTypes.Proofs.Sorting
import SchemaTypes.Proofs.Traversal
import SchemaTypes.Relation.Pairing

/-!
# Which pairings the fields declare

`Declares` says on the schema when a field of a model declares a many-to-many relation with another
model. `declared?` finds exactly these (`declared?_eq_some`). Of the pairings of one relation the
first in document order counts (`mem_firsts`), so the join tables have distinct names, and leaving
out whole relations leaves the others as they are (`firsts_filter`).
-/

namespace SchemaTypes

/-- The field `f` of `m` is a list of another one of the models, `n`, under a relation name under
which the first list of `n` answers. -/
structure Declares (models : List Model) (m : Model) (f : Field) (relation : String) (n : Model) :
    Prop where
  list : f.isImplicitList
  name : f.relation? = some relation
  mem : n ∈ models
  target : n.name = f.target
  ne : n.name ≠ m.name
  answer : ∃ a, n.listOf? relation = some a ∧ a.isImplicitList

/-- The fields of the models, each with its model, in order. -/
def fieldsInOrder (models : List Model) : List (Model × Field) :=
  models.flatMap fun m => m.fields.map fun f => (m, f)

namespace Field
variable {f : Field} {relation : String}

theorem relation?_eq_some : f.relation? = some relation ↔ f.relationName = some relation ∧ relation ≠ "" := by
  simp [relation?, Option.filter_eq_some_iff]

theorem isList_of_isImplicitList (h : f.isImplicitList) : f.isList := by
  simp only [isImplicitList, Bool.and_eq_true] at h
  exact h.1.1.2

end Field

theorem Model.listOf?_eq_some {m : Model} {relation : String} {a : Field}
    (h : m.listOf? relation = some a) :
    a ∈ m.fields ∧ a.isList ∧ a.relationName = some relation := by
  have hp := List.find?_some h
  simp only [Bool.and_eq_true, decide_eq_true_eq] at hp
  exact ⟨List.mem_of_find?_eq_some h, hp.2, hp.1⟩

/-- A list of the model carries the relation name. -/
def Model.Carries (m : Model) (relation : String) : Prop :=
  ∃ f ∈ m.fields, f.isList ∧ f.relationName = some relation

theorem Model.carries_iff {m : Model} {relation : String} : m.Carries relation ↔
    0 < m.fields.countP fun f => f.isList && f.relationName = some relation := by
  simp [Model.Carries, List.countP_pos_iff]

/-- The columns of the join table hold the identifiers of `low` and `high`. -/
structure JoinTable.Joins (t : JoinTable) (low high : Model) : Prop where
  modelA : t.modelA = low.name
  modelB : t.modelB = high.name
  columnA : ∃ key, low.identifier = .ok key ∧ t.kindA = key.kind ∧ t.uuidA = key.isUuid
  columnB : ∃ key, high.identifier = .ok key ∧ t.kindB = key.kind ∧ t.uuidB = key.isUuid

namespace Declares
variable {models : List Model} {m n : Model} {f : Field} {relation : String}

theorem carries (h : Declares models m f relation n) (hf : f ∈ m.fields) : m.Carries relation :=
  ⟨f, hf, Field.isList_of_isImplicitList h.list, (Field.relation?_eq_some.1 h.name).1⟩

theorem carries_target (h : Declares models m f relation n) : n.Carries relation := by
  obtain ⟨a, ha, -⟩ := h.answer
  obtain ⟨hmem, hlist, hname⟩ := Model.listOf?_eq_some ha
  exact ⟨a, hmem, hlist, hname⟩

theorem relation_ne (h : Declares models m f relation n) : relation ≠ "" :=
  (Field.relation?_eq_some.1 h.name).2

theorem model_ne (h : Declares models m f relation n) : m ≠ n :=
  fun hmn => h.ne (congrArg Model.name hmn).symm

end Declares

namespace Pairing
variable {models : List Model} {m n : Model} {f : Field} {p q : Pairing} {ps : List Pairing}
  {relation : String}

theorem ext' (hr : p.relation = q.relation) (hl : p.low = q.low) (hh : p.high = q.high) : p = q := by
  cases p; cases q; cases hr; cases hl; cases hh; rfl

theorem of?_eq_some : of? relation m n = some p ↔
    p.relation = relation ∧ (p.low = m ∧ p.high = n ∨ p.low = n ∧ p.high = m) := by
  have hp := p.ordered
  unfold of?
  split
  next h =>
    rw [Option.some.injEq]
    constructor
    · rintro rfl
      exact ⟨rfl, .inl ⟨rfl, rfl⟩⟩
    · rintro ⟨hr, ⟨hl, hh⟩ | ⟨hl, hh⟩⟩
      · exact ext' hr.symm hl.symm hh.symm
      · exact absurd (hl ▸ hh ▸ hp) (String.lt_asymm h)
  next h =>
    split
    next h' =>
      rw [Option.some.injEq]
      constructor
      · rintro rfl
        exact ⟨rfl, .inr ⟨rfl, rfl⟩⟩
      · rintro ⟨hr, ⟨hl, hh⟩ | ⟨hl, hh⟩⟩
        · exact absurd (hl ▸ hh ▸ hp) h
        · exact ext' hr.symm hl.symm hh.symm
    next h' =>
      simp only [reduceCtorEq, false_iff]
      rintro ⟨-, ⟨hl, hh⟩ | ⟨hl, hh⟩⟩
      · exact h (hl ▸ hh ▸ hp)
      · exact h' (hl ▸ hh ▸ hp)

theorem of?_isSome : (of? relation m n).isSome ↔ n.name ≠ m.name := by
  unfold of?
  split
  next h => simpa using (String.ne_of_lt h).symm
  next h =>
    split
    next h' => simpa using String.ne_of_lt h'
    next h' => simpa using String.le_antisymm (String.not_lt.1 h) (String.not_lt.1 h')

theorem of?_comm : of? relation m n = of? relation n m := by
  refine Option.ext fun p => ?_
  rw [of?_eq_some, of?_eq_some, or_comm]

theorem declared?_eq_some (hn : (models.map Model.name).Nodup) : declared? models m f = some p ↔
    ∃ n, Declares models m f p.relation n ∧ of? p.relation m n = some p := by
  have hr : (models.reverse.map Model.name).Nodup := by
    rw [List.map_reverse, List.nodup_reverse]
    exact hn
  simp only [declared?, Option.bind_eq_bind, Option.bind_eq_some_iff, Option.guard_eq_some',
    find?_name_eq_some hr, List.mem_reverse]
  constructor
  · rintro ⟨_, hf, relation, hrel, n, ⟨hmem, hname⟩, a, ha, _, hai, hp⟩
    obtain ⟨rfl, -⟩ := of?_eq_some.1 hp
    have hne : n.name ≠ m.name := of?_isSome.1 (Option.isSome_iff_exists.2 ⟨p, hp⟩)
    exact ⟨n, ⟨hf, hrel, hmem, hname, hne, a, ha, hai⟩, hp⟩
  · rintro ⟨n, h, hp⟩
    obtain ⟨a, ha, hai⟩ := h.answer
    exact ⟨(), h.list, p.relation, h.name, n, ⟨h.mem, h.target⟩, a, ha, (), hai, hp⟩

theorem exists_declared? (hn : (models.map Model.name).Nodup) (h : Declares models m f relation n) :
    ∃ p, declared? models m f = some p ∧ p.relation = relation ∧ of? relation m n = some p := by
  have hsome : (of? relation m n).isSome := of?_isSome.2 h.ne
  obtain ⟨p, hp⟩ := Option.isSome_iff_exists.1 hsome
  obtain ⟨rfl, -⟩ := of?_eq_some.1 hp
  exact ⟨p, (declared?_eq_some hn).2 ⟨n, h, hp⟩, rfl, hp⟩

theorem mem_declared : p ∈ declared models ↔ ∃ m ∈ models, ∃ f ∈ m.fields, declared? models m f = some p := by
  simp [declared]

theorem mem_models_of_mem_declared (hn : (models.map Model.name).Nodup) (h : p ∈ declared models) :
    p.low ∈ models ∧ p.high ∈ models := by
  obtain ⟨m, hm, f, -, hf⟩ := mem_declared.1 h
  obtain ⟨n, hdec, hof⟩ := (declared?_eq_some hn).1 hf
  rcases (of?_eq_some.1 hof).2 with ⟨hl, hh⟩ | ⟨hl, hh⟩
  · exact ⟨hl ▸ hm, hh ▸ hdec.mem⟩
  · exact ⟨hl ▸ hdec.mem, hh ▸ hm⟩

/-! ### The first pairing of each relation -/

theorem mem_firsts : p ∈ firsts ps ↔ (ps.find? fun q => q.relation = p.relation) = some p := by
  induction ps with
  | nil => simp [firsts]
  | cons q qs ih =>
    rw [firsts, List.mem_cons, List.mem_filter, ih, List.find?_cons]
    by_cases h : q.relation = p.relation
    · simp [h, eq_comm]
    · have hne : p ≠ q := fun hpq => h (congrArg relation hpq).symm
      simp [h, hne, Ne.symm h]

theorem mem_firsts_of_unique (h : ∀ p ∈ ps, ∀ q ∈ ps, p.relation = q.relation → p = q) :
    p ∈ firsts ps ↔ p ∈ ps := by
  rw [mem_firsts]
  constructor
  · exact List.mem_of_find?_eq_some
  · intro hp
    have hsome : (ps.find? fun q => q.relation = p.relation).isSome := by
      rw [List.find?_isSome]
      exact ⟨p, hp, by simp⟩
    obtain ⟨q, hq⟩ := Option.isSome_iff_exists.1 hsome
    have hqp : q.relation = p.relation := by simpa using List.find?_some hq
    rw [hq, h q (List.mem_of_find?_eq_some hq) p hp hqp]

theorem nodup_firsts : ((firsts ps).map Pairing.relation).Nodup := by
  induction ps with
  | nil => simp [firsts]
  | cons q qs ih =>
    rw [firsts, List.map_cons, List.nodup_cons]
    refine ⟨fun h => ?_, ih.sublist (List.filter_sublist.map _)⟩
    obtain ⟨p, hp, hpq⟩ := List.mem_map.1 h
    simp [hpq] at hp

theorem firsts_filter {keep : Pairing → Bool}
    (h : ∀ p ∈ ps, ∀ q ∈ ps, p.relation = q.relation → keep p = keep q) :
    firsts (ps.filter keep) = (firsts ps).filter keep := by
  induction ps with
  | nil => rfl
  | cons q qs ih =>
    have ih := ih fun p hp r hr => h p (by simp [hp]) r (by simp [hr])
    by_cases hq : keep q
    · rw [List.filter_cons_of_pos hq, firsts, firsts, ih, List.filter_cons_of_pos hq,
        List.filter_filter, List.filter_filter]
      simp only [Bool.and_comm]
    · rw [List.filter_cons_of_neg hq, firsts, ih, List.filter_cons_of_neg hq, List.filter_filter]
      -- the filter for other relations leaves out nothing that `keep` keeps
      refine List.filter_congr fun p hp => ?_
      have hp' : p ∈ qs := List.mem_of_find?_eq_some (mem_firsts.1 hp)
      by_cases hpq : p.relation = q.relation
      · simp [h p (by simp [hp']) q (by simp) hpq, hq]
      · simp [hpq]

/-! ### Join tables -/

theorem joinTable_eq_ok {t : JoinTable} (h : p.joinTable = .ok t) :
    t.relation = p.relation ∧ t.table = "_" ++ p.relation ∧ t.Joins p.low p.high := by
  obtain ⟨a, ha, h⟩ := Traversal.bind_eq_ok_iff.1 h
  obtain ⟨b, hb, h⟩ := Traversal.bind_eq_ok_iff.1 h
  cases h
  exact ⟨rfl, rfl, rfl, rfl, ⟨a, ha, rfl, rfl⟩, b, hb, rfl, rfl⟩

theorem exists_joinTable_eq_ok : (∃ t, p.joinTable = .ok t) ↔ p.low.Identified ∧ p.high.Identified := by
  simp only [← Model.exists_identifier_eq_ok, joinTable, Traversal.bind_eq_ok_iff]
  constructor
  · rintro ⟨_, a, ha, b, hb, -⟩
    exact ⟨⟨a, ha⟩, b, hb⟩
  · rintro ⟨⟨a, ha⟩, b, hb⟩
    exact ⟨_, a, ha, b, hb, rfl⟩

theorem map_table_eq {ts : List JoinTable} (h : ps.mapM joinTable = .ok ts) :
    ts.map JoinTable.table = ps.map fun p => "_" ++ p.relation :=
  Traversal.map_eq_of_ok (fun _ _ ht => (joinTable_eq_ok ht).2.1) h

theorem nodup_tables {ts : List JoinTable} (hp : (ps.map Pairing.relation).Nodup)
    (h : ps.mapM joinTable = .ok ts) : (ts.map JoinTable.table).Nodup := by
  have hinj : Function.Injective fun r : String => "_" ++ r := fun _ _ => String.append_right_inj _ |>.1
  rw [map_table_eq h]
  simpa [List.map_map, Function.comp_def] using hp.map hinj

/-- The sorted join tables of pairings of distinct relations, in whatever order the pairings come. -/
theorem sorted_tables_perm {qs : List Pairing} (hp : (ps.map Pairing.relation).Nodup) (h : ps.Perm qs)
    {ts : List JoinTable} : Text.sortedBy JoinTable.table <$> ps.mapM joinTable = .ok ts ↔
      Text.sortedBy JoinTable.table <$> qs.mapM joinTable = .ok ts := by
  have hstep : ∀ {ps qs : List Pairing}, (ps.map Pairing.relation).Nodup → ps.Perm qs →
      Text.sortedBy JoinTable.table <$> ps.mapM joinTable = .ok ts →
      Text.sortedBy JoinTable.table <$> qs.mapM joinTable = .ok ts := by
    intro ps qs hp h hok
    obtain ⟨us, hus, rfl⟩ := Traversal.map_eq_ok_iff.1 hok
    obtain ⟨ws, hws, hperm⟩ := Traversal.exists_ok_perm h hus
    refine Traversal.map_eq_ok_iff.2 ⟨ws, hws, ?_⟩
    exact (Text.sortedBy_eq_of_perm (nodup_tables hp hus) hperm.symm).symm
  exact ⟨hstep hp h, hstep ((h.map _).nodup_iff.1 hp) h.symm⟩

end Pairing

end SchemaTypes
