import SchemaTypes.Proofs.Relation.Inference
import SchemaTypes.Proofs.Rendering.Success

/-!
# Relations that both models declare

A join table comes from one field, the first that declares its relation, and the target of this field
may answer with a list of any model. So the participants of the join tables list each other if and
only if the target of each such field lists the model of the field (`joinTables_mutual_iff`). Where a
third model lists the target under the same name, it may not (`joinTables_not_mutual`).
-/

namespace SchemaTypes

/-- `m` has a list of `n` without columns under the name of the relation. -/
def Model.Lists (m : Model) (relation : String) (n : Model) : Prop :=
  ∃ f ∈ m.fields, f.Implicit ∧ f.relationName = some relation ∧ f.relationTarget = some n.name

instance (f : Field) : Decidable f.Implicit := inferInstanceAs (Decidable (_ ∧ _))

instance (m : Model) (relation : String) (n : Model) : Decidable (m.Lists relation n) :=
  inferInstanceAs (Decidable (∃ f ∈ m.fields, _))

/-- Each of the two participants of the table lists the other one under the name of the relation. -/
def JoinTable.Mutual (t : JoinTable) (models : List Model) : Prop :=
  ∃ m ∈ models, ∃ n ∈ models, t.modelA = m.name ∧ t.modelB = n.name ∧
    m.Lists t.relation n ∧ n.Lists t.relation m

instance (t : JoinTable) (models : List Model) : Decidable (t.Mutual models) :=
  inferInstanceAs (Decidable (∃ m ∈ models, ∃ n ∈ models, _))

variable {models : List Model} {m n : Model} {f : Field} {relation : String} {ts : List JoinTable}

theorem Declares.lists (h : Declares models m f relation n) (hm : m ∈ models) (hf : f ∈ m.fields) :
    m.Lists relation n :=
  (exists_declares_iff.1 ⟨hm, f, hf, h⟩).2.list

theorem mem_fieldsInOrder : (m, f) ∈ fieldsInOrder models ↔ m ∈ models ∧ f ∈ m.fields := by
  simp only [fieldsInOrder, List.mem_flatMap, List.mem_map, Prod.mk.injEq]
  constructor
  · rintro ⟨k, hk, g, hg, rfl, rfl⟩
    exact ⟨hk, hg⟩
  · rintro ⟨hm, hf⟩
    exact ⟨m, hm, f, hf, rfl, rfl⟩

/-- The table that the first field of a relation gives is mutual when the target lists the model back. -/
theorem JoinTable.mutual_iff (hn : (models.map Model.name).Nodup) {t : JoinTable} {p : Pairing}
    (ht : p.joinTable = .ok t) (hm : m ∈ models) (hf : f ∈ m.fields)
    (hdec : Declares models m f p.relation n) (hof : Pairing.of? p.relation m n = some p) :
    t.Mutual models ↔ n.Lists p.relation m := by
  obtain ⟨hr, -, hjoins⟩ := Pairing.joinTable_eq_ok ht
  have hlists := hdec.lists hm hf
  -- models of one name are one model, so the participants are `m` and `n`, in one order or the other
  have heq {k l : Model} (hk : k ∈ models) (hl : l ∈ models) (h : k.name = l.name) : k = l :=
    List.inj_on_of_nodup_map hn hk hl h
  unfold Mutual
  rw [hr, hjoins.modelA, hjoins.modelB]
  rcases (Pairing.of?_eq_some.1 hof).2 with ⟨hl, hh⟩ | ⟨hl, hh⟩
  · rw [hl, hh]
    constructor
    · rintro ⟨a, ha, b, hb, hma, hnb, -, hback⟩
      rwa [heq hm ha hma, heq hdec.mem hb hnb]
    · exact fun hback => ⟨m, hm, n, hdec.mem, rfl, rfl, hlists, hback⟩
  · rw [hl, hh]
    constructor
    · rintro ⟨a, ha, b, hb, hna, hmb, hback, -⟩
      rwa [heq hm hb hmb, heq hdec.mem ha hna]
    · exact fun hback => ⟨n, hdec.mem, m, hm, rfl, rfl, hback, hlists⟩

/-- The participants of every join table list each other if and only if the target of the first field
that declares a relation lists the model of the field. -/
theorem joinTables_mutual_iff (hn : (models.map Model.name).Nodup) (h : joinTables models = .ok ts) :
    (∀ t ∈ ts, t.Mutual models) ↔
      ∀ relation before m f after, fieldsInOrder models = before ++ (m, f) :: after →
        (∀ p ∈ before, ∀ n, ¬ Declares models p.1 p.2 relation n) →
        ∀ n, Declares models m f relation n → n.Lists relation m := by
  -- the pairing of a relation that counts is that of the first field that declares it
  have hfirst {p : Pairing} : p ∈ Pairing.firsts (Pairing.declared models) ↔
      ∃ before m f after, fieldsInOrder models = before ++ (m, f) :: after ∧
        (∀ q ∈ before, ∀ n, ¬ Declares models q.1 q.2 p.relation n) ∧
        Pairing.declared? models m f = some p :=
    Pairing.mem_firsts_declared (d := { models, models_nodup := hn })
  constructor
  · intro hmutual relation before m f after heq hbefore n hdec
    obtain ⟨hm, hf⟩ := mem_fieldsInOrder.1 (heq ▸ List.mem_append_right before List.mem_cons_self)
    obtain ⟨p, hp, rfl, hof⟩ := Pairing.exists_declared? hn hdec
    have hmem := hfirst.2 ⟨before, m, f, after, heq, hbefore, hp⟩
    obtain ⟨us, hus, -⟩ := Traversal.map_eq_ok_iff.1 h
    obtain ⟨t, ht⟩ := Traversal.exists_ok_iff.1 ⟨us, hus⟩ p hmem
    exact (JoinTable.mutual_iff hn ht hm hf hdec hof).1 (hmutual t ((mem_joinTables h).2 ⟨p, hmem, ht⟩))
  · intro hback t ht
    obtain ⟨p, hmem, hpt⟩ := (mem_joinTables h).1 ht
    obtain ⟨before, m, f, after, heq, hbefore, hp⟩ := hfirst.1 hmem
    obtain ⟨hm, hf⟩ := mem_fieldsInOrder.1 (heq ▸ List.mem_append_right before List.mem_cons_self)
    obtain ⟨n, hdec, hof⟩ := (Pairing.declared?_eq_some hn).1 hp
    have hlists := hback p.relation before m f after heq hbefore n hdec
    exact (JoinTable.mutual_iff hn hpt hm hf hdec hof).2 hlists

/-- Posts and tags list each other. Notes list tags too, and come second. -/
theorem joinTables_mutual_iff_posts :
    let id : Field := { name := "id", kind := .string, isId := true }
    let tags : Field := {
      name := "tags", kind := .relation, isList := true, relationName := some "PostToTag",
      relationTarget := some "Tag" }
    let post : Model := { name := "Post", fields := [id, tags] }
    let note : Model := { name := "Note", fields := [id, tags] }
    let tag : Model := { name := "Tag", fields := [id,
      { name := "posts", kind := .relation, isList := true, relationName := some "PostToTag",
        relationTarget := some "Post" }] }
    let models := [post, note, tag]
    let ts : List JoinTable := [
      { table := "_PostToTag", relation := "PostToTag", modelA := "Post", modelB := "Tag",
        kindA := .string, kindB := .string, uuidA := true, uuidB := true }]
    ((models.map Model.name).Nodup ∧ joinTables models = .ok ts) ∧
    ((∀ t ∈ ts, t.Mutual models) ↔
      ∀ relation before m f after, fieldsInOrder models = before ++ (m, f) :: after →
        (∀ p ∈ before, ∀ n, ¬ Declares models p.1 p.2 relation n) →
        ∀ n, Declares models m f relation n → n.Lists relation m) := by
  intro id tags post note tag models ts
  have hn : (models.map Model.name).Nodup := by decide
  have h : joinTables models = .ok ts := by decide +kernel
  exact ⟨⟨hn, h⟩, joinTables_mutual_iff hn h⟩

/-- Notes come first and list tags, which list posts: the join table is one of notes and tags. -/
theorem joinTables_not_mutual :
    let id : Field := { name := "id", kind := .string, isId := true }
    let tags : Field := {
      name := "tags", kind := .relation, isList := true, relationName := some "PostToTag",
      relationTarget := some "Tag" }
    let note : Model := { name := "Note", fields := [id, tags] }
    let post : Model := { name := "Post", fields := [id, tags] }
    let tag : Model := { name := "Tag", fields := [id,
      { name := "posts", kind := .relation, isList := true, relationName := some "PostToTag",
        relationTarget := some "Post" }] }
    let models := [note, post, tag]
    (models.map Model.name).Nodup ∧ ∃ t, joinTables models = .ok [t] ∧ ¬ t.Mutual models := by
  intro id tags note post tag models
  let t : JoinTable := {
    table := "_PostToTag", relation := "PostToTag", modelA := "Note", modelB := "Tag",
    kindA := .string, kindB := .string, uuidA := true, uuidB := true }
  have h : joinTables models = .ok [t] := by decide +kernel
  exact ⟨by decide, t, h, by decide⟩

end SchemaTypes
