import SchemaTypes.Proofs.Relation.Pairing

/-!
# Which join tables are inferred

`Paired` says on the fields of two models that a relation pairs them. The join tables that the
models imply are those of the relations that pair two models, one for each relation
(`joinTables_exact`): the pairings that the fields declare are the paired models
(`exists_declares_iff`), the first of each relation is kept, and sorting by table keeps them all.
-/

namespace SchemaTypes

/-- A list of another model without columns on either side. -/
def Field.Implicit (f : Field) : Prop :=
  f.kind = .relation ∧ f.isList ∧ f.fromFields = [] ∧ f.toFields = []

/-- `m` has a list of `n` without columns under the name of the relation, and the first list that
`n` has under this name is one without columns as well. -/
structure Paired (models : List Model) (relation : String) (m n : Model) : Prop where
  left : m ∈ models
  right : n ∈ models
  ne : n.name ≠ m.name
  list : ∃ f ∈ m.fields, f.Implicit ∧ f.relationName = some relation ∧ f.relationTarget = some n.name
  answer : ∃ before a after, n.fields = before ++ a :: after ∧ a.Implicit ∧
    a.relationName = some relation ∧ ∀ g ∈ before, g.isList → g.relationName ≠ some relation

variable {models : List Model} {m n : Model} {relation : String} {ts : List JoinTable}

/-! ### Fields -/

theorem Field.isImplicitList_iff {f : Field} : f.isImplicitList ↔ f.Implicit := by
  simp [isImplicitList, Implicit, isRelation, and_assoc]

theorem Model.listOf?_isImplicitList : (∃ a, m.listOf? relation = some a ∧ a.isImplicitList) ↔
    ∃ before a after, m.fields = before ++ a :: after ∧ a.Implicit ∧
      a.relationName = some relation ∧ ∀ g ∈ before, g.isList → g.relationName ≠ some relation := by
  simp only [listOf?, List.find?_eq_some_iff_append, Field.isImplicitList_iff, Bool.and_eq_true,
    decide_eq_true_eq, Bool.not_eq_true', Bool.and_eq_false_imp]
  constructor
  · rintro ⟨a, ⟨⟨hname, -⟩, before, after, heq, hbefore⟩, ha⟩
    refine ⟨before, a, after, heq, ha, hname, fun g hg hlist hg' => ?_⟩
    simpa [hlist] using hbefore g hg hg'
  · rintro ⟨before, a, after, heq, ha, hname, hbefore⟩
    refine ⟨a, ⟨⟨hname, ha.2.1⟩, before, after, heq, fun g hg hg' => ?_⟩, ha⟩
    exact Bool.eq_false_iff.2 fun hlist => hbefore g hg hlist hg'

theorem exists_declares_iff : (m ∈ models ∧ ∃ f ∈ m.fields, Declares models m f relation n) ↔
    relation ≠ "" ∧ Paired models relation m n := by
  constructor
  · rintro ⟨hm, f, hf, h⟩
    have htarget : f.relationTarget = some n.name := by
      have hn := h.target
      cases hr : f.relationTarget with
      | none => exact absurd (by simpa [Field.target, hr] using hn) n.name_ne
      | some target => simpa [Field.target, hr] using hn.symm
    exact ⟨h.relation_ne, hm, h.mem, h.ne,
      ⟨f, hf, Field.isImplicitList_iff.1 h.list, (Field.relation?_eq_some.1 h.name).1, htarget⟩,
      Model.listOf?_isImplicitList.1 h.answer⟩
  · rintro ⟨hne, hm, hn, hname, ⟨f, hf, himplicit, hr, htarget⟩, hanswer⟩
    refine ⟨hm, f, hf, Field.isImplicitList_iff.2 himplicit, Field.relation?_eq_some.2 ⟨hr, hne⟩, hn, ?_,
      hname, Model.listOf?_isImplicitList.2 hanswer⟩
    simp [Field.target, htarget]

/-! ### Pairings -/

namespace Pairing
variable {p : Pairing}

theorem paired_of_mem_declared (hn : (models.map Model.name).Nodup) (h : p ∈ declared models) :
    p.relation ≠ "" ∧
      (Paired models p.relation p.low p.high ∨ Paired models p.relation p.high p.low) := by
  obtain ⟨m, hm, f, hf, hp⟩ := mem_declared.1 h
  obtain ⟨n, hdec, hof⟩ := (declared?_eq_some hn).1 hp
  obtain ⟨hne, hpaired⟩ := exists_declares_iff.1 ⟨hm, f, hf, hdec⟩
  refine ⟨hne, ?_⟩
  rcases (of?_eq_some.1 hof).2 with ⟨hl, hh⟩ | ⟨hl, hh⟩
  · rw [hl, hh]
    exact .inl hpaired
  · rw [hl, hh]
    exact .inr hpaired

/-- Some pairing of the relation counts where it pairs models. -/
theorem exists_mem_firsts (hn : (models.map Model.name).Nodup) (hne : relation ≠ "")
    (h : Paired models relation m n) : ∃ p ∈ firsts (declared models), p.relation = relation := by
  obtain ⟨hm, f, hf, hdec⟩ := exists_declares_iff.2 ⟨hne, h⟩
  obtain ⟨q, hq, hr, -⟩ := exists_declared? hn hdec
  have hsome : ((declared models).find? fun p => p.relation = relation).isSome := by
    rw [List.find?_isSome]
    exact ⟨q, mem_declared.2 ⟨m, hm, f, hf, hq⟩, by simp [hr]⟩
  obtain ⟨p, hp⟩ := Option.isSome_iff_exists.1 hsome
  have hpr : p.relation = relation := by simpa using List.find?_some hp
  exact ⟨p, mem_firsts.2 (by rwa [hpr]), hpr⟩

end Pairing

/-! ### Join tables -/

theorem mem_joinTables (h : joinTables models = .ok ts) {t : JoinTable} :
    t ∈ ts ↔ ∃ p ∈ Pairing.firsts (Pairing.declared models), p.joinTable = .ok t := by
  obtain ⟨us, hus, rfl⟩ := Traversal.map_eq_ok_iff.1 h
  rw [Text.mem_sortedBy, Traversal.mem_iff hus]

/-- The join tables are those of the relations that pair two models, one for each, in strict order. -/
theorem joinTables_exact (hn : (models.map Model.name).Nodup) (h : joinTables models = .ok ts) :
    (∀ relation, relation ≠ "" → (∃ m n, Paired models relation m n) →
      ∃! t, t ∈ ts ∧ t.relation = relation) ∧
    (∀ t ∈ ts, t.relation ≠ "" ∧ t.table = "_" ++ t.relation ∧ t.modelA < t.modelB ∧
      ∃ m n, Paired models t.relation m n ∧ (t.Joins m n ∨ t.Joins n m)) ∧
    ts.Pairwise fun t u => t.table < u.table := by
  obtain ⟨us, hus, hts⟩ := Traversal.map_eq_ok_iff.1 h
  have hnodup : (us.map JoinTable.table).Nodup := Pairing.nodup_tables Pairing.nodup_firsts hus
  refine ⟨fun relation hne ⟨m, n, hpaired⟩ => ?_, fun t ht => ?_, ?_⟩
  · obtain ⟨p, hp, hr⟩ := Pairing.exists_mem_firsts hn hne hpaired
    obtain ⟨t, ht⟩ : ∃ t, p.joinTable = .ok t := Traversal.exists_ok_iff.1 ⟨us, hus⟩ p hp
    obtain ⟨htr, -, -⟩ := Pairing.joinTable_eq_ok ht
    refine ⟨t, ⟨(mem_joinTables h).2 ⟨p, hp, ht⟩, htr.trans hr⟩, ?_⟩
    rintro u ⟨hu, hur⟩
    obtain ⟨q, hq, hqu⟩ := (mem_joinTables h).1 hu
    obtain ⟨hqr, -, -⟩ := Pairing.joinTable_eq_ok hqu
    -- of one relation only one pairing counts
    have hqp : q = p := List.inj_on_of_nodup_map Pairing.nodup_firsts hq hp (by rw [hr, ← hqr, hur])
    subst hqp
    exact Except.ok.inj (hqu.symm.trans ht)
  · obtain ⟨p, hp, hpt⟩ := (mem_joinTables h).1 ht
    obtain ⟨hr, htable, hjoins⟩ := Pairing.joinTable_eq_ok hpt
    obtain ⟨hne, hpaired⟩ :=
      Pairing.paired_of_mem_declared hn (List.mem_of_find?_eq_some (Pairing.mem_firsts.1 hp))
    rw [hr]
    refine ⟨hne, htable, t.ordered, ?_⟩
    rcases hpaired with hpaired | hpaired
    · exact ⟨p.low, p.high, hpaired, .inl hjoins⟩
    · exact ⟨p.high, p.low, hpaired, .inr hjoins⟩
  · rw [← hts]
    exact Text.pairwise_lt_sortedBy hnodup

/-- Notes and posts both list tags under one name: the first pair counts. A list of the model itself
is none. -/
theorem joinTables_exact_notes :
    let note : Model := { name := "Note", fields := [
      { name := "id", kind := .string, isId := true },
      { name := "tags", kind := .relation, isList := true, relationName := some "PostToTag",
        relationTarget := some "Tag" }] }
    let post : Model := { name := "Post", fields := [
      { name := "id", kind := .string, isId := true },
      { name := "related", kind := .relation, isList := true, relationName := some "PostToPost",
        relationTarget := some "Post" },
      { name := "tags", kind := .relation, isList := true, relationName := some "PostToTag",
        relationTarget := some "Tag" }] }
    let tag : Model := { name := "Tag", fields := [
      { name := "code", kind := .int, isId := true },
      { name := "posts", kind := .relation, isList := true, relationName := some "PostToTag",
        relationTarget := some "Post" }] }
    let models := [note, post, tag]
    let ts : List JoinTable := [
      { table := "_PostToTag", relation := "PostToTag", modelA := "Note", modelB := "Tag",
        kindA := .string, kindB := .int, uuidA := true }]
    ((models.map Model.name).Nodup ∧ joinTables models = .ok ts) ∧
    (∀ relation, relation ≠ "" → (∃ m n, Paired models relation m n) →
      ∃! t, t ∈ ts ∧ t.relation = relation) ∧
    (∀ t ∈ ts, t.relation ≠ "" ∧ t.table = "_" ++ t.relation ∧ t.modelA < t.modelB ∧
      ∃ m n, Paired models t.relation m n ∧ (t.Joins m n ∨ t.Joins n m)) ∧
    ts.Pairwise fun t u => t.table < u.table := by
  intro note post tag models ts
  have hn : (models.map Model.name).Nodup := by decide
  have h : joinTables models = .ok ts := by decide +kernel
  exact ⟨⟨hn, h⟩, joinTables_exact hn h⟩

end SchemaTypes
