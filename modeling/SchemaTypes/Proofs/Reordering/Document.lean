import SchemaTypes.Proofs.Relation.ForeignKeys
import SchemaTypes.Proofs.Relation.Pairing
import SchemaTypes.Proofs.Reordering.Model

/-!
# A document with its declarations in another order

`Reordered d e`: the models of `e` are those of `d` in another order, each with its fields in
another order, and so are the enums. The order may decide something in two places: when two
relations use one column, and when more than two lists share a relation name. `Unambiguous` rules
both out, and then names are looked up to the same model, columns are branded for the same target,
and the same pairs of models are paired.
-/

namespace SchemaTypes

namespace Document

/-- `g` reorders the fields of each model, and `e` has the models of `d` so changed, and its enums,
in another order. -/
structure ReorderedBy (g : Model → Model) (d e : Document) : Prop where
  model : ∀ m : Model, m.Reordered (g m)
  models : e.models.Perm (d.models.map g)
  enums : e.enums.Perm d.enums

/-- `e` declares what `d` declares, in another order: models, the fields of each model, and enums.
The members of an enum keep their order. -/
def Reordered (d e : Document) : Prop := ∃ g, ReorderedBy g d e

/-- Nothing in the document depends on which declaration comes first. Internal models have no
columns that are rendered and are no targets, so their keys do not count. -/
structure Unambiguous (d : Document) : Prop where
  models : ∀ m ∈ d.models, m.Unambiguous
  lists : ∀ relation, relation ≠ "" →
    (d.models.flatMap Model.fields).countP (fun f => f.isList && f.relationName = some relation) ≤ 2
  keys : ∀ m ∈ d.models, ¬ m.isInternal → ∀ column t u, ¬ t.isInternal → ¬ u.isInternal →
    m.Qualifies d none column t → m.Qualifies d none column u → t = u

namespace ReorderedBy
variable {g : Model → Model} {d e : Document} {m n : Model} {name : String}

theorem mem_models (h : ReorderedBy g d e) : n ∈ e.models ↔ ∃ m ∈ d.models, g m = n := by
  rw [h.models.mem_iff, List.mem_map]

theorem model? (h : ReorderedBy g d e) (name : String) : e.model? name = (d.model? name).map g := by
  refine Option.ext fun n => ?_
  rw [model?_eq_some, Option.map_eq_some_iff, h.mem_models]
  constructor
  · rintro ⟨⟨m, hm, rfl⟩, hname⟩
    exact ⟨m, model?_eq_some.2 ⟨hm, (h.model m).name ▸ hname⟩, rfl⟩
  · rintro ⟨m, hm, rfl⟩
    obtain ⟨hm, hname⟩ := model?_eq_some.1 hm
    exact ⟨⟨m, hm, rfl⟩, (h.model m).name ▸ hname⟩

theorem enum? (h : ReorderedBy g d e) (name : String) : e.enum? name = d.enum? name := by
  refine Option.ext fun x => ?_
  rw [enum?_eq_some, enum?_eq_some, h.enums.mem_iff]

theorem enumNames (h : ReorderedBy g d e) : e.enumNames = d.enumNames :=
  Text.sorted_eq_of_perm (h.enums.map _)

theorem kindType (h : ReorderedBy g d e) (f : Field) : f.kindType e = f.kindType d := by
  have henum : f.enum? e = f.enum? d := by
    rw [Field.enum?, Field.enum?]
    exact congrArg _ (funext h.enum?)
  unfold Field.kindType
  rw [henum, h.enumNames]

/-! ### Foreign keys -/

theorem qualifies_iff (h : ReorderedBy g d e) (hd : d.Unambiguous) {scope : Option (List String)}
    {column : String} {u : Model} : (g m).Qualifies e scope column u ↔
      ∃ t, m.Qualifies d scope column t ∧ g t = u := by
  simp only [Model.Qualifies, (h.model m).mem_fields]
  constructor
  · rintro ⟨hf, hu, hs, r, hr, hk, ht, key, hkey, hpair⟩
    obtain ⟨t, htm, rfl⟩ := h.mem_models.1 hu
    rw [(h.model t).markedFields (hd.models t htm)] at hkey
    rw [(h.model t).name] at hs ht
    exact ⟨t, ⟨hf, htm, hs, r, hr, hk, ht, key, hkey, hpair⟩, rfl⟩
  · rintro ⟨t, ⟨hf, htm, hs, r, hr, hk, ht, key, hkey, hpair⟩, rfl⟩
    rw [(h.model t).name, (h.model t).markedFields (hd.models t htm)]
    exact ⟨hf, h.mem_models.2 ⟨t, htm, rfl⟩, hs, r, hr, hk, ht, key, hkey, hpair⟩

theorem get?_foreignKeys (h : ReorderedBy g d e) (hd : d.Unambiguous) {scope : Option (List String)}
    {column : String}
    (hkeys : ∀ t u, m.Qualifies d scope column t → m.Qualifies d scope column u → t = u) :
    ((g m).foreignKeys e scope).get? column = (m.foreignKeys d scope).get? column := by
  have hmem : ∀ target, (column, target) ∈ (g m).fields.flatMap ((g m).keysOf e scope) ↔
      (column, target) ∈ m.fields.flatMap (m.keysOf d scope) := by
    intro target
    rw [Model.mem_links, Model.mem_links]
    constructor
    · rintro ⟨u, hu, rfl⟩
      obtain ⟨t, ht, rfl⟩ := (h.qualifies_iff hd).1 hu
      exact ⟨t, ht, (h.model t).name.symm⟩
    · rintro ⟨t, ht, rfl⟩
      exact ⟨g t, (h.qualifies_iff hd).2 ⟨t, ht, rfl⟩, (h.model t).name⟩
  refine Keyed.get?_ofList_congr (fun a b ha hb => ?_) hmem
  obtain ⟨t, ht, rfl⟩ := Model.mem_links.1 ((hmem a).1 ha)
  obtain ⟨u, hu, rfl⟩ := Model.mem_links.1 ((hmem b).1 hb)
  rw [hkeys t u ht hu]

end ReorderedBy

end Document

end SchemaTypes
