import SchemaTypes.Code.File
import SchemaTypes.Proofs.Relation.ForeignKeys
import SchemaTypes.Proofs.Relation.Identifier
import SchemaTypes.Proofs.Traversal

/-!
# When columns have a type

A column fails only over its enum, and only where nothing else gives its type: a type note, the
brand of its model or that of a target. The brand of a model fails when the model has no identifier
or the one that it marks has no type of its own. What a failure says of the schema is so
(`RenderFailure.Holds`).
-/

namespace SchemaTypes

/-- The field refers to an enum of the schema. -/
def Field.NamesEnum (f : Field) (d : Document) : Prop := ∃ e ∈ d.enums, f.enumName = some e.name

/-- What the failure says of the schema is so. Only a missing identifier may be that of an internal
model: such models take part in relations. -/
def RenderFailure.Holds (d : Document) : RenderFailure → Prop
  | .missingIdentifier model => ∃ m ∈ d.models, m.name = model ∧ ¬ m.Identified
  | .undefinedEnum field enum available => available = d.enumNames ∧
      ∃ m ∈ d.models, ¬ m.isInternal ∧ ∃ f ∈ m.fields, f.name = field ∧ f.kind = .enum ∧
        f.enumName = enum ∧ ¬ f.NamesEnum d
  | .unmappable field kind => kind = Kind.relation.word ∧
      ∃ m ∈ d.models, ¬ m.isInternal ∧ ∃ f ∈ m.fields, f.name = field ∧ f.kind = .relation

variable {d : Document} {m : Model} {f : Field} {s : Scope} {x : RenderFailure}

/-! ### Kinds -/

namespace Field

theorem isRelation_iff : f.isRelation ↔ f.kind = .relation := by simp [isRelation]

theorem enum?_eq_some {e : Enumeration} : f.enum? d = some e ↔ e ∈ d.enums ∧ f.enumName = some e.name := by
  simp only [enum?, Option.bind_eq_some_iff, Option.filter_eq_some_iff, Document.enum?_eq_some,
    decide_eq_true_eq]
  constructor
  · rintro ⟨name, ⟨hname, -⟩, he, rfl⟩
    exact ⟨he, hname⟩
  · rintro ⟨he, hname⟩
    exact ⟨e.name, ⟨hname, e.name_ne⟩, he, rfl⟩

theorem enum?_isSome : (f.enum? d).isSome ↔ f.NamesEnum d := by
  simp only [Option.isSome_iff_exists, enum?_eq_some, NamesEnum]

theorem exists_kindType_eq_ok : (∃ b, f.kindType d = .ok b) ↔
    f.kind ≠ .relation ∧ (f.kind = .enum → f.NamesEnum d) := by
  unfold kindType
  cases hk : f.kind with
  | enum =>
    rw [← enum?_isSome]
    cases f.enum? d <;> simp
  | _ => simp

theorem kindType_eq_error (hm : m ∈ d.models) (hi : ¬ m.isInternal) (hf : f ∈ m.fields)
    (h : f.kindType d = .error x) : x.Holds d := by
  unfold kindType at h
  cases hk : f.kind with
  | relation =>
    simp only [hk] at h
    cases h
    exact ⟨rfl, m, hm, hi, f, hf, rfl, hk⟩
  | enum =>
    simp only [hk] at h
    cases he : f.enum? d with
    | some e => simp [he] at h
    | none =>
      have hn : ¬ f.NamesEnum d := by simp [← enum?_isSome, he]
      rw [he] at h
      cases h
      exact ⟨rfl, m, hm, hi, f, hf, rfl, hk, rfl, hn⟩
  | _ => simp [hk] at h

end Field

/-! ### Models -/

namespace Model

theorem identifier_eq_error (hm : m ∈ d.models) (h : m.identifier = .error x) : x.Holds d := by
  unfold identifier at h
  cases hid : m.identifier? with
  | some f => simp [hid] at h
  | none =>
    have hn : ¬ m.Identified := by simp [← identifier?_isSome, hid]
    rw [hid] at h
    cases h
    exact ⟨m, hm, rfl, hn⟩

theorem exists_brand_eq_ok : (∃ b, m.brand d = .ok b) ↔
    m.Identified ∧ ∀ f, m.markedFields = [f] → ∃ b, f.kindType d = .ok b := by
  simp only [brand, Traversal.bind_eq_ok_iff, ← exists_identifier_eq_ok, ← soleIdentifier?_eq_some]
  cases hs : m.soleIdentifier? with
  | none => simp [pure, Except.pure]
  | some f =>
    simp only [Option.some.injEq, forall_eq']
    constructor
    · rintro ⟨_, a, ha, hb⟩
      obtain ⟨b, hb, -⟩ := Traversal.bind_eq_ok_iff.1 hb
      exact ⟨⟨a, ha⟩, b, hb⟩
    · rintro ⟨⟨a, ha⟩, b, hb⟩
      exact ⟨_, a, ha, Traversal.bind_eq_ok_iff.2 ⟨b, hb, rfl⟩⟩

theorem brand_eq_error (hm : m ∈ d.models) (hi : ¬ m.isInternal) (h : m.brand d = .error x) :
    x.Holds d := by
  rcases Traversal.bind_eq_error_iff.1 h with h | ⟨_, -, h⟩
  · exact identifier_eq_error hm h
  · cases hs : m.soleIdentifier? with
    | none =>
      rw [hs] at h
      cases h
    | some f =>
      have hf : f ∈ m.markedFields := by simp [soleIdentifier?_eq_some.1 hs]
      rw [hs] at h
      rcases Traversal.bind_eq_error_iff.1 h with h | ⟨_, -, h⟩
      · exact Field.kindType_eq_error hm hi (mem_markedFields.1 hf).1 h
      · cases h

theorem mem_columns : f ∈ m.columns ↔ f ∈ m.fields ∧ f.kind ≠ .relation := by
  simp [columns, columnFields, Field.isRelation]

/-- A field has the brand of its model when it is the only one that is marked. -/
theorem filter_owner? (hf : f ∈ m.fields) :
    (m.owner?.filter fun _ => f.isId) = none ↔ m.markedFields ≠ [f] := by
  rw [← not_iff_not, ← Ne, Option.ne_none_iff_exists', not_not]
  simp only [Option.filter_eq_some_iff, owner?, Option.map_eq_some_iff, soleIdentifier?_eq_some]
  constructor
  · rintro ⟨_, ⟨key, hkey, -⟩, hid⟩
    have hmem : f ∈ m.markedFields := mem_markedFields.2 ⟨hf, hid⟩
    rw [hkey, List.mem_singleton] at hmem
    rw [hkey, hmem]
  · intro h
    have hmem : f ∈ m.markedFields := by simp [h]
    exact ⟨m.name, ⟨f, h, rfl⟩, (mem_markedFields.1 hmem).2⟩

theorem exists_column_eq_ok (hf : f ∈ m.fields) (hk : f.kind ≠ .relation) :
    (∃ c, m.column s f = .ok c) ↔ (f.kind = .enum → f.override? = none → m.markedFields ≠ [f] →
      (∀ t, ¬ m.Qualifies s.document (some s.modelNames) f.name t) → f.NamesEnum s.document) := by
  have hrelation : ¬ f.isRelation := fun h => hk (Field.isRelation_iff.1 h)
  have hkeys : (m.keysIn s).get? f.name = none ↔
      ∀ t, ¬ m.Qualifies s.document (some s.modelNames) f.name t := by
    rw [← not_exists, ← get?_foreignKeys_isSome, Option.not_isSome_iff_eq_none]
    rfl
  rw [← hkeys, ← filter_owner? hf, column, Field.columnType, Traversal.exists_map_eq_ok_iff,
    Traversal.exists_map_eq_ok_iff, Field.baseType, if_neg hrelation]
  -- each of the three that give a type hides what comes after it
  cases f.override? with
  | some text => simp
  | none => cases m.owner?.filter fun _ => f.isId with
    | some model => simp
    | none => cases (m.keysIn s).get? f.name with
      | some target => simp
      | none => simpa using Field.exists_kindType_eq_ok.trans (and_iff_right hk)

theorem column_eq_error (hm : m ∈ s.document.models) (hi : ¬ m.isInternal) (hf : f ∈ m.fields)
    (hk : f.kind ≠ .relation) (h : m.column s f = .error x) : x.Holds s.document := by
  have hrelation : ¬ f.isRelation := fun h => hk (Field.isRelation_iff.1 h)
  rw [column, Field.columnType, Traversal.map_eq_error_iff, Traversal.map_eq_error_iff, Field.baseType,
    if_neg hrelation] at h
  repeat' split at h
  · cases h
  · cases h
  · cases h
  · exact Field.kindType_eq_error hm hi hf h

theorem exists_tableDecl_eq_ok : (∃ t, m.tableDecl s = .ok t) ↔
    ∀ f ∈ m.fields, f.kind ≠ .relation → ∃ c, m.column s f = .ok c := by
  have hall : (∃ cs, m.columns.mapM (m.column s) = .ok cs) ↔ ∀ f ∈ m.columns, ∃ c, m.column s f = .ok c :=
    Traversal.exists_ok_iff
  simp only [mem_columns, and_imp] at hall
  rw [← hall]
  simp only [tableDecl, Traversal.bind_eq_ok_iff]
  exact ⟨fun ⟨_, cs, hcs, _⟩ => ⟨cs, hcs⟩, fun ⟨cs, hcs⟩ => ⟨_, cs, hcs, rfl⟩⟩

theorem tableDecl_eq_error (hm : m ∈ s.document.models) (hi : ¬ m.isInternal)
    (h : m.tableDecl s = .error x) : x.Holds s.document := by
  rcases Traversal.bind_eq_error_iff.1 h with h | ⟨_, -, h⟩
  · obtain ⟨f, hf, h⟩ := Traversal.exists_of_eq_error h
    obtain ⟨hf, hk⟩ := mem_columns.1 hf
    exact column_eq_error hm hi hf hk h
  · cases h

end Model

/-! ### Scopes -/

namespace Scope

theorem exists_typesFile_eq_ok : (∃ t, s.typesFile = .ok t) ↔
    ∀ m ∈ s.models, (∃ b, m.brand s.document = .ok b) ∧ ∃ t, m.tableDecl s = .ok t := by
  have hbrands : (∃ bs, s.brands = .ok bs) ↔ ∀ m ∈ s.models, ∃ b, m.brand s.document = .ok b := by
    rw [brands, Traversal.exists_map_eq_ok_iff, Traversal.exists_ok_iff]
  have htables : (∃ ts, (s.models.mapM fun m => m.tableDecl s) = .ok ts) ↔
      ∀ m ∈ s.models, ∃ t, m.tableDecl s = .ok t := Traversal.exists_ok_iff
  rw [forall₂_and, ← hbrands, ← htables]
  simp only [typesFile, Traversal.bind_eq_ok_iff]
  constructor
  · rintro ⟨_, bs, hbs, ts, hts, -⟩
    exact ⟨⟨bs, hbs⟩, ts, hts⟩
  · rintro ⟨⟨bs, hbs⟩, ts, hts⟩
    exact ⟨_, bs, hbs, ts, hts, rfl⟩

/-- Enough for `types.ts`: each model marks an identifier, which is no relation, and the enums are
there. -/
theorem exists_typesFile_of_complete (h : ∀ m ∈ s.models, (∃ f ∈ m.fields, f.isId) ∧ ∀ f ∈ m.fields,
    (f.isId → f.kind ≠ .relation) ∧ (f.kind = .enum → ∃ e ∈ s.document.enums, f.enumName = some e.name)) :
    ∃ t, s.typesFile = .ok t := by
  refine exists_typesFile_eq_ok.2 fun m hm => ?_
  obtain ⟨hid, hall⟩ := h m hm
  constructor
  · refine Model.exists_brand_eq_ok.2 ⟨.inl hid, fun f hf => Field.exists_kindType_eq_ok.2 ?_⟩
    obtain ⟨hf, hmarked⟩ := Model.mem_markedFields.1 (hf ▸ List.mem_singleton_self f)
    exact ⟨(hall f hf).1 hmarked, (hall f hf).2⟩
  · refine Model.exists_tableDecl_eq_ok.2 fun f hf hk => (Model.exists_column_eq_ok hf hk).2 ?_
    exact fun he _ _ _ => (hall f hf).2 he

theorem typesFile_eq_error (hs : ∀ m ∈ s.models, m ∈ s.document.models ∧ ¬ m.isInternal)
    (h : s.typesFile = .error x) : x.Holds s.document := by
  rcases Traversal.bind_eq_error_iff.1 h with h | ⟨_, -, h⟩
  · obtain ⟨m, hm, h⟩ := Traversal.exists_of_eq_error (Traversal.map_eq_error_iff.1 h)
    exact Model.brand_eq_error (hs m hm).1 (hs m hm).2 h
  · rcases Traversal.bind_eq_error_iff.1 h with h | ⟨_, -, h⟩
    · obtain ⟨m, hm, h⟩ := Traversal.exists_of_eq_error h
      exact Model.tableDecl_eq_error (hs m hm).1 (hs m hm).2 h
    · cases h

end Scope

end SchemaTypes
