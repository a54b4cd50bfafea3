import Mathlib.Data.Option.Basic
import SchemaTypes.Proofs.Lookup
import SchemaTypes.Relation.ForeignKeys

/-!
# What makes a column a foreign key

`Qualifies` says it on the schema: a relation of the model pairs the column with the sole
identifier of its target. The entries that the model collects are exactly these (`mem_links`), so
the table of foreign keys gives a column the target that it qualifies for, where there is one
(`get?_foreignKeys_isSome`, `qualifies_of_get?_foreignKeys`). Several relations may pair one column, each
with a target of its own (`Field.Refers`); then the last of them counts (`get?_foreignKeys_eq_some`).
-/

namespace SchemaTypes

/-- The relation `r` pairs the column, at some place in both its lists, with the sole identifier of the
model `target`, which is in the scope. -/
structure Field.Refers (r : Field) (d : Document) (scope : Option (List String)) (column : String)
    (target : Model) : Prop where
  relation : r.kind = .relation
  mem : target ∈ d.models
  name : target.name = r.target
  inScope : ∀ names, scope = some names → target.name ∈ names
  paired : ∃ (key : Field) (i : Nat), target.markedFields = [key] ∧ r.fromFields[i]? = some column ∧
    r.toFields[i]? = some key.name

theorem Field.Refers.unique {r : Field} {d : Document} {scope : Option (List String)}
    {column column' : String} {t t' : Model} (h : r.Refers d scope column t)
    (h' : r.Refers d scope column' t') : t = t' :=
  Document.model_ext h.mem h'.mem (h.name.trans h'.name.symm)

namespace Model

variable {d : Document} {m : Model} {scope : Option (List String)} {column target : String}

/-- A relation of `m` pairs the field `column` with the sole identifier of the model `target`,
which is in the scope. -/
def Qualifies (m : Model) (d : Document) (scope : Option (List String)) (column : String)
    (target : Model) : Prop :=
  (∃ f ∈ m.fields, f.name = column) ∧ target ∈ d.models ∧
  (∀ names, scope = some names → target.name ∈ names) ∧
  ∃ r ∈ m.fields, r.kind = .relation ∧ r.target = target.name ∧
    ∃ key, target.markedFields = [key] ∧ (column, key.name) ∈ r.fromFields.zip r.toFields

theorem linkOf?_eq_some {r key : Field} {t : Model} : linkOf? d scope r = some (t, key) ↔
    (r.kind = .relation ∧ r.fromFields ≠ []) ∧ (t ∈ d.models ∧ t.name = r.target) ∧
      (∀ names, scope = some names → t.name ∈ names) ∧ t.markedFields = [key] := by
  simp only [linkOf?, Option.bind_eq_bind, Option.pure_def, Option.bind_eq_some_iff,
    Option.guard_eq_some', Document.model?_eq_some, soleIdentifier?_eq_some, Option.some.injEq,
    Prod.mk.injEq]
  simp only [Field.isRelation, Bool.and_eq_true, decide_eq_true_eq, Bool.not_eq_true', List.isEmpty_eq_false_iff,
    Option.all_eq_true, List.contains_eq_mem]
  constructor
  · rintro ⟨_, hr, t', ht', _, hs, key', hkey, rfl, rfl⟩
    exact ⟨hr, ht', fun names h => by simpa using hs names h, hkey⟩
  · rintro ⟨hr, ht, hs, hkey⟩
    exact ⟨(), hr, t, ht, (), fun names h => by simpa using hs names h, key, hkey, rfl, rfl⟩

theorem mem_zip_iff {xs ys : List String} {x y : String} :
    (x, y) ∈ xs.zip ys ↔ ∃ i : Nat, xs[i]? = some x ∧ ys[i]? = some y := by
  simp only [List.mem_iff_getElem?, List.getElem?_zip_eq_some]

theorem qualifies_iff_refers {t : Model} : m.Qualifies d scope column t ↔
    (∃ f ∈ m.fields, f.name = column) ∧ ∃ r ∈ m.fields, r.Refers d scope column t := by
  constructor
  · rintro ⟨hf, ht, hs, r, hr, hk, htn, key, hkey, hpair⟩
    obtain ⟨i, hc, hto⟩ := mem_zip_iff.1 hpair
    exact ⟨hf, r, hr, hk, ht, htn.symm, hs, key, i, hkey, hc, hto⟩
  · rintro ⟨hf, r, hr, hk, ht, htn, hs, key, i, hkey, hc, hto⟩
    exact ⟨hf, ht, hs, r, hr, hk, htn.symm, key, hkey, mem_zip_iff.2 ⟨i, hc, hto⟩⟩

theorem mem_keysOf {r : Field} : (column, target) ∈ m.keysOf d scope r ↔
    (∃ f ∈ m.fields, f.name = column) ∧ ∃ t, r.Refers d scope column t ∧ t.name = target := by
  have hlink : (column, target) ∈ m.keysOf d scope r ↔ ∃ t key, linkOf? d scope r = some (t, key) ∧
      (column, key.name) ∈ r.fromFields.zip r.toFields ∧ (∃ f ∈ m.fields, f.name = column) ∧
      t.name = target := by
    unfold keysOf
    split
    next h => simp [h]
    next t key h =>
      simp only [h, List.mem_filterMap, Option.some.injEq, Prod.mk.injEq]
      constructor
      · rintro ⟨⟨c, k⟩, hpair, hif⟩
        split at hif
        next hk =>
          simp only [Bool.and_eq_true, decide_eq_true_eq, field?_isSome] at hk
          obtain ⟨rfl, hf⟩ := hk
          cases hif
          exact ⟨t, key, ⟨rfl, rfl⟩, hpair, hf, rfl⟩
        next => cases hif
      · rintro ⟨_, _, ⟨rfl, rfl⟩, hpair, hf, rfl⟩
        refine ⟨(column, key.name), hpair, ?_⟩
        simp [field?_isSome, hf]
  rw [hlink]
  simp only [linkOf?_eq_some, mem_zip_iff]
  constructor
  · rintro ⟨t, key, ⟨⟨hk, -⟩, ⟨ht, htn⟩, hs, hkey⟩, ⟨i, hc, hto⟩, hf, rfl⟩
    exact ⟨hf, t, ⟨hk, ht, htn, hs, key, i, hkey, hc, hto⟩, rfl⟩
  · rintro ⟨hf, t, ⟨hk, ht, htn, hs, key, i, hkey, hc, hto⟩, rfl⟩
    -- a pair of columns is there, so the relation names columns
    have hne : r.fromFields ≠ [] := by
      intro h
      simp [h] at hc
    exact ⟨t, key, ⟨⟨hk, hne⟩, ⟨ht, htn⟩, hs, hkey⟩, ⟨i, hc, hto⟩, hf, rfl⟩

theorem mem_links : (column, target) ∈ m.fields.flatMap (m.keysOf d scope) ↔
    ∃ t, m.Qualifies d scope column t ∧ t.name = target := by
  simp only [List.mem_flatMap, mem_keysOf, qualifies_iff_refers]
  constructor
  · rintro ⟨r, hr, hf, t, hrefers, hname⟩
    exact ⟨t, ⟨hf, r, hr, hrefers⟩, hname⟩
  · rintro ⟨t, ⟨hf, r, hr, hrefers⟩, hname⟩
    exact ⟨r, hr, hf, t, hrefers, hname⟩

theorem get?_foreignKeys_isSome : ((m.foreignKeys d scope).get? column).isSome ↔
    ∃ t, m.Qualifies d scope column t := by
  rw [foreignKeys, Keyed.get?_ofList_isSome]
  simp only [mem_links]
  exact ⟨fun ⟨_, t, ht, _⟩ => ⟨t, ht⟩, fun ⟨t, ht⟩ => ⟨_, t, ht, rfl⟩⟩

theorem mem_names_foreignKeys : column ∈ (m.foreignKeys d scope).map Prod.fst ↔
    ∃ t, m.Qualifies d scope column t := by
  rw [← get?_foreignKeys_isSome, foreignKeys, Keyed.get?_ofList_isSome]
  exact Keyed.mem_names_ofList.trans (by simp)

theorem qualifies_of_get?_foreignKeys (h : (m.foreignKeys d scope).get? column = some target) :
    ∃ t, m.Qualifies d scope column t ∧ t.name = target :=
  mem_links.1 (Keyed.mem_of_get?_ofList h)

theorem Qualifies.unscoped {t : Model} (h : m.Qualifies d scope column t) :
    m.Qualifies d none column t := by
  obtain ⟨hf, ht, -, hr⟩ := h
  exact ⟨hf, ht, by simp, hr⟩

/-! ### Which target counts -/

theorem get?_ofList_keysOf {r : Field} :
    Keyed.get? (Keyed.ofList (m.keysOf d scope r)) column = some target ↔
      (∃ f ∈ m.fields, f.name = column) ∧ ∃ t, r.Refers d scope column t ∧ t.name = target := by
  rw [← mem_keysOf]
  refine ⟨Keyed.mem_of_get?_ofList, fun h => Keyed.get?_ofList_of_mem (fun b hb => ?_) h⟩
  obtain ⟨-, t, ht, rfl⟩ := mem_keysOf.1 h
  obtain ⟨-, t', ht', rfl⟩ := mem_keysOf.1 hb
  rw [ht.unique ht']

/-- The last relation that pairs the column gives its target. -/
theorem get?_foreignKeys_eq_some : (m.foreignKeys d scope).get? column = some target ↔
    (∃ f ∈ m.fields, f.name = column) ∧ ∃ earlier r later t, m.fields = earlier ++ r :: later ∧
      r.Refers d scope column t ∧ t.name = target ∧
      ∀ r' ∈ later, ∀ t', ¬ r'.Refers d scope column t' := by
  rw [foreignKeys, Keyed.get?_ofList_flatMap, List.findSome?_eq_some_iff]
  constructor
  · rintro ⟨later, r, earlier, hfields, hget, hlater⟩
    obtain ⟨hf, t, ht, hname⟩ := get?_ofList_keysOf.1 hget
    refine ⟨hf, earlier.reverse, r, later.reverse, t, ?_, ht, hname, fun r' hr' t' ht' => ?_⟩
    · rw [← List.reverse_inj, hfields]
      simp
    · have hget' := get?_ofList_keysOf.2 ⟨hf, t', ht', rfl⟩
      rw [hlater r' (List.mem_reverse.1 hr')] at hget'
      cases hget'
  · rintro ⟨hf, earlier, r, later, t, hfields, ht, hname, hlater⟩
    refine ⟨later.reverse, r, earlier.reverse, ?_, get?_ofList_keysOf.2 ⟨hf, t, ht, hname⟩, ?_⟩
    · rw [hfields]
      simp
    · intro r' hr'
      refine Option.eq_none_iff_forall_ne_some.2 fun target' hget => ?_
      obtain ⟨-, t', ht', -⟩ := get?_ofList_keysOf.1 hget
      exact hlater r' (List.mem_reverse.1 hr') t' ht'

/-- The foreign keys are the fields that some relation pairs with the sole identifier of its target in
the scope, each once. Of several relations the last one gives the target, so that a field on whose
target all of them agree has this target. -/
theorem foreignKeys_exact (m : Model) (d : Document) (scope : Option (List String)) :
    ((m.foreignKeys d scope).map Prod.fst).Nodup ∧
    (∀ column, column ∈ (m.foreignKeys d scope).map Prod.fst ↔
      (∃ f ∈ m.fields, f.name = column) ∧ ∃ r ∈ m.fields, ∃ t, r.Refers d scope column t) ∧
    (∀ column target, (m.foreignKeys d scope).get? column = some target ↔
      (∃ f ∈ m.fields, f.name = column) ∧ ∃ earlier r later t, m.fields = earlier ++ r :: later ∧
        r.Refers d scope column t ∧ t.name = target ∧
        ∀ r' ∈ later, ∀ t', ¬ r'.Refers d scope column t') ∧
    ∀ column t, (∃ f ∈ m.fields, f.name = column) → (∃ r ∈ m.fields, r.Refers d scope column t) →
      (∀ r ∈ m.fields, ∀ t', r.Refers d scope column t' → t' = t) →
      (m.foreignKeys d scope).get? column = some t.name := by
  refine ⟨Keyed.nodup_names_ofList, fun column => ?_, fun _ _ => get?_foreignKeys_eq_some, ?_⟩
  · rw [mem_names_foreignKeys]
    simp only [qualifies_iff_refers]
    constructor
    · rintro ⟨t, hf, r, hr, hrefers⟩
      exact ⟨hf, r, hr, t, hrefers⟩
    · rintro ⟨hf, r, hr, t, hrefers⟩
      exact ⟨t, hf, r, hr, hrefers⟩
  · intro column t hf ⟨r, hr, hrefers⟩ hall
    have hsome := get?_foreignKeys_isSome.2 ⟨t, qualifies_iff_refers.2 ⟨hf, r, hr, hrefers⟩⟩
    obtain ⟨target, htarget⟩ := Option.isSome_iff_exists.1 hsome
    obtain ⟨t', ht', rfl⟩ := qualifies_of_get?_foreignKeys htarget
    obtain ⟨-, r', hr', hrefers'⟩ := qualifies_iff_refers.1 ht'
    rw [htarget, hall r' hr' t' hrefers']

end Model

end SchemaTypes
