import SchemaTypes.Proofs.Relation.ForeignKeys
import SchemaTypes.Proofs.Reordering.Model

/-!
# Foreign keys of a model with its fields in another order

The order of the fields does not decide which of them are foreign keys. It decides the target of a field
that relations pair with more than one model, for the last relation counts: each of them gives the target
in some order, as it may be moved behind the others (`get?_foreignKeys_withLast`). So the table is the
same in every order just if no field qualifies for two targets (`foreignKeys_reordered_iff`).
-/

namespace SchemaTypes.Model

variable {d : Document} {m n t : Model} {scope : Option (List String)} {column : String} {r : Field}

theorem Reordered.qualifies_iff (h : m.Reordered n) :
    n.Qualifies d scope column t ↔ m.Qualifies d scope column t := by
  simp only [Qualifies, h.mem_fields]

/-- The model with one of its fields behind the others. -/
def withLast (m : Model) (r : Field) : Model := { m with fields := m.fields.erase r ++ [r] }

theorem reordered_withLast (hr : r ∈ m.fields) : m.Reordered (m.withLast r) where
  name := rfl
  dbName := rfl
  primaryKey := rfl
  location := rfl
  fields := (List.perm_append_singleton r _).trans (List.perm_cons_erase hr).symm

theorem get?_foreignKeys_withLast (hr : r ∈ m.fields) (hf : ∃ f ∈ m.fields, f.name = column)
    (h : r.Refers d scope column t) :
    ((m.withLast r).foreignKeys d scope).get? column = some t.name := by
  refine get?_foreignKeys_eq_some.2 ⟨?_, m.fields.erase r, r, [], t, rfl, h, rfl, by simp⟩
  obtain ⟨f, hf, rfl⟩ := hf
  exact ⟨f, (reordered_withLast hr).mem_fields.2 hf, rfl⟩

/-- Whether a field is a foreign key does not depend on the order of the fields. Its target is the same in
every order if and only if the field qualifies for one target only. -/
theorem foreignKeys_reordered_iff (m : Model) (d : Document) (scope : Option (List String))
    (column : String) :
    (∀ n, m.Reordered n → ((n.foreignKeys d scope).get? column).isSome =
      ((m.foreignKeys d scope).get? column).isSome) ∧
    ((∀ n, m.Reordered n → (n.foreignKeys d scope).get? column = (m.foreignKeys d scope).get? column) ↔
      ∀ t u, m.Qualifies d scope column t → m.Qualifies d scope column u → t = u) := by
  have hsome : ∀ n, m.Reordered n → ((n.foreignKeys d scope).get? column).isSome =
      ((m.foreignKeys d scope).get? column).isSome := fun n hn => by
    rw [Bool.eq_iff_iff, get?_foreignKeys_isSome, get?_foreignKeys_isSome]
    simp only [hn.qualifies_iff]
  refine ⟨hsome, fun hsame t u ht hu => ?_, fun honly n hn => ?_⟩
  · -- the relation of either target may be the last one
    have hlast : ∀ t, m.Qualifies d scope column t →
        (m.foreignKeys d scope).get? column = some t.name := fun t ht => by
      obtain ⟨hf, r, hr, hrefers⟩ := qualifies_iff_refers.1 ht
      rw [← hsame _ (reordered_withLast hr)]
      exact get?_foreignKeys_withLast hr hf hrefers
    have hname : t.name = u.name := Option.some.inj ((hlast t ht).symm.trans (hlast u hu))
    exact Document.model_ext ht.2.1 hu.2.1 hname
  · refine Keyed.get?_ofList_congr (fun a b ha hb => ?_) fun a => ?_
    · obtain ⟨t, ht, rfl⟩ := mem_links.1 ha
      obtain ⟨u, hu, rfl⟩ := mem_links.1 hb
      rw [honly t u (hn.qualifies_iff.1 ht) (hn.qualifies_iff.1 hu)]
    · rw [mem_links, mem_links]
      simp only [hn.qualifies_iff]

/-- A car is owned by a firm or by a person, and one field holds the key of the owner: which one it refers
to depends on the relation that comes last. -/
theorem foreignKeys_reordered_apart :
    let key : Field := { name := "id", kind := .int, isId := true }
    let owner : Field := { name := "ownerId", kind := .int }
    let firm : Field :=
      { name := "firm", kind := .relation, relationTarget := some "Firm",
        fromFields := ["ownerId"], toFields := ["id"] }
    let person : Field :=
      { name := "person", kind := .relation, relationTarget := some "Person",
        fromFields := ["ownerId"], toFields := ["id"] }
    let m : Model := { name := "Car", fields := [key, owner, firm, person] }
    let n : Model := { name := "Car", fields := [key, owner, person, firm] }
    let d : Document :=
      { models := [m, { name := "Firm", fields := [key] }, { name := "Person", fields := [key] }] }
    (m ∈ d.models ∧ (m.fields.map (·.name)).Nodup ∧ m.Reordered n) ∧
      (m.foreignKeys d none).get? "ownerId" = some "Person" ∧
      (n.foreignKeys d none).get? "ownerId" = some "Firm" := by
  intro key owner firm person m n d
  refine ⟨⟨by decide, by decide, rfl, rfl, rfl, rfl, by decide⟩, by decide, by decide⟩

end SchemaTypes.Model
