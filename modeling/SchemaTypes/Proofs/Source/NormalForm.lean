import SchemaTypes.Proofs.Checked
import SchemaTypes.Source.Parsing

/-!
# Schemas in normal form

`InNormalForm` says which entries describe a schema in normal form, in whatever order they stand: a
value that is absent may be left out. Such entries are read as the schema that they describe
(`Document.check_eq_good`).
-/

namespace SchemaTypes

/-! ### Values that describe -/

namespace Value

/-- The value is a mapping with entries as described. -/
def IsRecord (P : Entries → Prop) (v : Value) : Prop := ∃ es, v = .mapping es ∧ P es

/-- The value lists what describes the entries, one after the other. -/
def Lists {α : Type} (R : α → Value → Prop) (xs : List α) (v : Value) : Prop :=
  ∃ vs, v = .list vs ∧ List.Forall₂ R xs vs

/-- A list of names; null may stand for none. -/
def IsNames (xs : List String) (v : Value) : Prop := v = .texts xs ∨ v = .null ∧ xs = []

/-- A storage type, alone or with its arguments behind it. -/
def IsStorageType (o : Option String) (v : Value) : Prop :=
  v = .ofText? o ∨ (∃ args, v = .list (.ofText? o :: args)) ∨ v = .list [] ∧ o = none

/-- An identifier of several columns: their names, or a mapping that holds them. -/
def IsKey (xs : List String) (v : Value) : Prop :=
  v.IsNames xs ∨ v.IsRecord fun es => (es.get "fields").IsNames xs

end Value

def Entries.Only (es : Entries) (keys : List String) : Prop := ∀ e ∈ es, ∃ key ∈ keys, e.1 = .text key

/-! ### Descriptions -/

namespace Field

def keys : List String := "kind" :: attributes.map Checked.Attribute.inDocuments

/-- The entries describe all of the field but its kind and what its type names. -/
structure Described (f : Field) (es : Entries) : Prop where
  name : es.get "name" = .text f.name
  isList : (es.get? "isList").getD (.bool false) = .bool f.isList
  isRequired : (es.get? "isRequired").getD (.bool true) = .bool f.isRequired
  isId : (es.get? "isId").getD (.bool false) = .bool f.isId
  isUnique : (es.get? "isUnique").getD (.bool false) = .bool f.isUnique
  hasDefault : (es.get? "hasDefaultValue").getD (.bool false) = .bool f.hasDefault
  isUpdatedAt : (es.get? "isUpdatedAt").getD (.bool false) = .bool f.isUpdatedAt
  dbName : es.get "dbName" = .ofText? f.dbName
  nativeType : (es.get "nativeType").IsStorageType f.nativeType
  relationName : es.get "relationName" = .ofText? f.relationName
  fromFields : (es.get "relationFromFields").IsNames f.fromFields
  toFields : (es.get "relationToFields").IsNames f.toFields
  documentation : es.get "documentation" = .ofText? f.documentation

/-- The entries describe the field in normal form. The kind stands under one of its two keys. -/
structure InNormalForm (f : Field) (es : Entries) : Prop extends Described f es where
  only : es.Only keys
  kind : es.get "kind" = .text f.kind.word ∧ es.get? "scalarKind" = none ∨
    es.get "scalarKind" = .text f.kind.word ∧ es.get? "kind" = none
  enumName : es.get "enumName" = .ofText? f.enumName
  relationTarget : es.get "relationTarget" = .ofText? f.relationTarget

end Field

namespace Model

structure Described (m : Model) (es : Entries) : Prop where
  name : es.get "name" = .text m.name
  dbName : es.get "dbName" = .ofText? m.dbName
  primaryKey : (es.get "primaryKey").IsKey m.primaryKey
  location : es.get "schemaLocation" = .ofText? m.location

structure InNormalForm (m : Model) (es : Entries) : Prop extends Described m es where
  only : es.Only (attributes.map Checked.Attribute.inDocuments)
  fields : ((es.get? "fields").getD (.list [])).Lists (fun f => Value.IsRecord f.InNormalForm) m.fields

end Model

structure Member.Described (m : Member) (es : Entries) : Prop where
  name : es.get "name" = .text m.name
  dbName : es.get "dbName" = .ofText? m.dbName

/-- The value describes the member in normal form: its name alone may do. -/
def Member.InNormalForm (m : Member) (v : Value) : Prop :=
  v = .text m.name ∧ m.dbName = none ∨
    v.IsRecord fun es => m.Described es ∧ es.Only (Member.attributes.map Checked.Attribute.inDocuments)

namespace Enumeration

structure Described (e : Enumeration) (es : Entries) : Prop where
  name : es.get "name" = .text e.name
  dbName : es.get "dbName" = .ofText? e.dbName

structure InNormalForm (e : Enumeration) (es : Entries) : Prop extends Described e es where
  only : es.Only (attributes.map Checked.Attribute.inDocuments)
  values : (es.get "values").Lists Member.InNormalForm e.members

end Enumeration

/-- The entries hold the schema in normal form, among other entries. -/
structure Document.InNormalForm (d : Document) (es : Entries) : Prop where
  models : (Source.orEmpty (es.get "models")).Lists (fun m => Value.IsRecord m.InNormalForm) d.models
  enums : (Source.orEmpty (es.get "enums")).Lists (fun e => Value.IsRecord e.InNormalForm) d.enums

/-! ### Reading descriptions -/

variable {es : Entries} {keys : List String} {key : String} {v : Value}

namespace Entries

theorem Only.get?_eq_none (h : es.Only keys) (hkey : key ∉ keys) : es.get? key = none := by
  refine Entries.get?_eq_none fun e he heq => ?_
  obtain ⟨k, hk, hek⟩ := h e he
  rw [heq] at hek
  cases hek
  exact hkey hk

theorem Only.closed {α : Type} {attributes : List Checked.Attribute} {c : Checked α}
    (h : es.Only (attributes.map Checked.Attribute.inDocuments)) :
    Checked.closed attributes es c = c := by
  refine Checked.closed_eq fun e he => ?_
  obtain ⟨k, hk, hek⟩ := h e he
  obtain ⟨a, ha, rfl⟩ := List.mem_map.1 hk
  exact ⟨a, ha, .inl hek⟩

end Entries

/-- What lists descriptions is read as what they describe, if each description is. -/
theorem Value.Lists.tuple {α : Type} {R : α → Value → Prop} {check : Value → Checked α} {xs : List α}
    (h : v.Lists R xs) (hcheck : ∀ x w, R x w → check w = .good x) : Checked.tuple check v = .good xs := by
  obtain ⟨vs, rfl, hvs⟩ := h
  exact Checked.tuple_eq_good (hvs.imp hcheck)

namespace Field

theorem checkNames_eq_good {xs : List String} (h : v.IsNames xs) : checkNames v = .good xs := by
  rcases h with rfl | ⟨rfl, rfl⟩
  · exact Checked.tuple_texts xs
  · rfl

theorem checkNativeType_eq_good {o : Option String} (h : v.IsStorageType o) : checkNativeType v = .good o := by
  rcases h with rfl | ⟨args, rfl⟩ | ⟨rfl, rfl⟩
  · cases o <;> rfl
  · exact Checked.optionalText_ofText? o
  · rfl

variable {f : Field}

theorem closed_eq {α : Type} {c : Checked α} (h : f.InNormalForm es) :
    Checked.closed attributes es c = c := by
  refine Checked.closed_eq fun e he => ?_
  obtain ⟨k, hk, hek⟩ := h.only e he
  rcases List.mem_cons.1 hk with rfl | hk
  · -- the only entry under the name of its attribute; it counts since `scalarKind` is absent
    refine ⟨⟨"kind", "scalarKind"⟩, by decide, .inr ⟨hek, ?_⟩⟩
    rcases h.kind with ⟨-, hnone⟩ | ⟨-, hnone⟩
    · exact hnone
    · have hsome := Entries.get?_isSome.2 ⟨e, he, hek⟩
      rw [hnone] at hsome
      cases hsome
  · obtain ⟨a, ha, rfl⟩ := List.mem_map.1 hk
    exact ⟨a, ha, .inl hek⟩

theorem needed_kind (h : f.InNormalForm es) :
    Checked.needed es ⟨"kind", "scalarKind"⟩ Kind.check = .good f.kind := by
  have hcheck : Kind.check (.text f.kind.word) = .good f.kind := by
    have hword : (Checked.text (.text f.kind.word)).toOption.bind Kind.ofWord? = some f.kind :=
      Kind.ofWord?_word f.kind
    unfold Kind.check
    rw [hword]
  have hne : Value.text f.kind.word ≠ .null := nofun
  rcases h.kind with ⟨hkind, hnone⟩ | ⟨hkind, -⟩
  · refine Checked.needed_eq_good (Checked.Attribute.find?_of_name hnone ?_) hcheck
    exact Entries.get?_of_get hkind hne
  · exact Checked.needed_eq_good (Checked.Attribute.find?_of_get? (Entries.get?_of_get hkind hne)) hcheck

theorem checkAttributes_eq_good (h : f.InNormalForm es) : checkAttributes es = .good f.toAttributes := by
  -- an attribute is also found under its own name, but no key of a field is the name of another attribute
  have hsnake {key : String} (hkey : key ∉ keys) : es.get? key = none := h.only.get?_eq_none hkey
  have hname := Checked.needed_name f.name_ne h.name
  have hflag {name key : String} {b absent : Bool} (hn : name ∉ keys)
      (hv : (es.get? key).getD (.bool absent) = .bool b) :
      Checked.given es ⟨name, key⟩ absent Checked.truth = .good b :=
    Checked.given_truth (.inr (hsnake hn)) hv
  have hwords {name key : String} {o : Option String} (hn : name = key ∨ name ∉ keys)
      (hv : es.get key = .ofText? o) : Checked.given es ⟨name, key⟩ none Checked.optionalText = .good o :=
    Checked.given_get (hn.imp_right hsnake) rfl (hv ▸ Checked.optionalText_ofText? o)
  have hnames {name key : String} {xs : List String} (hn : name ∉ keys) (hv : (es.get key).IsNames xs) :
      Checked.given es ⟨name, key⟩ [] checkNames = .good xs :=
    Checked.given_get (.inr (hsnake hn)) rfl (checkNames_eq_good hv)
  have hnative : Checked.given es ⟨"native_type", "nativeType"⟩ none checkNativeType = .good f.nativeType :=
    Checked.given_get (.inr (hsnake (by decide))) rfl (checkNativeType_eq_good h.nativeType)
  unfold checkAttributes
  dsimp only
  rw [hname, needed_kind h, hwords (.inr (by decide)) h.enumName, hflag (by decide) h.isList,
    hflag (by decide) h.isRequired, hflag (by decide) h.isId, hflag (by decide) h.isUnique,
    hflag (by decide) h.hasDefault, hflag (by decide) h.isUpdatedAt, hwords (.inr (by decide)) h.dbName,
    hnative, hwords (.inr (by decide)) h.relationName, hwords (.inr (by decide)) h.relationTarget,
    hnames (by decide) h.fromFields, hnames (by decide) h.toFields, hwords (.inl rfl) h.documentation]
  rfl

theorem check_eq_good (h : f.InNormalForm es) : check (.mapping es) = .good f := by
  show (Checked.closed attributes es (checkAttributes es)).andThen _ = _
  rw [closed_eq h, checkAttributes_eq_good h]
  exact dif_pos f.target_ne

end Field

namespace Model
variable {m : Model}

theorem checkPrimaryKey_eq_good {xs : List String} (h : v.IsKey xs) : checkPrimaryKey v = .good xs := by
  rcases h with h | ⟨es, rfl, h⟩
  · -- the names stand alone
    rw [← Field.checkNames_eq_good h]
    rcases h with rfl | ⟨rfl, rfl⟩ <;> rfl
  · show (if (Entries.get es "fields").isVoid then _ else Field.checkNames (Entries.get es "fields")) = _
    split
    next hvoid =>
      rcases h with h | ⟨-, rfl⟩
      · rw [h] at hvoid
        cases xs with
        | nil => rfl
        | cons x xs => cases hvoid
      · rfl
    · exact Field.checkNames_eq_good h

theorem check_eq_good (h : m.InNormalForm es) : check (.mapping es) = .good m := by
  have hsnake {key : String} (hkey : key ∉ attributes.map Checked.Attribute.inDocuments) :
      es.get? key = none := h.only.get?_eq_none hkey
  have hwords {name key : String} {o : Option String}
      (hn : name ∉ attributes.map Checked.Attribute.inDocuments) (hv : es.get key = .ofText? o) :
      Checked.given es ⟨name, key⟩ none Checked.optionalText = .good o :=
    Checked.given_get (.inr (hsnake hn)) rfl (hv ▸ Checked.optionalText_ofText? o)
  have hfields : Checked.given es ⟨"fields", "fields"⟩ [] (Checked.tuple Field.check) = .good m.fields := by
    have htuple : Checked.tuple Field.check ((es.get? "fields").getD (.list [])) = .good m.fields := by
      refine h.fields.tuple fun f w hw => ?_
      obtain ⟨fs, rfl, hfs⟩ := hw
      exact Field.check_eq_good hfs
    refine Checked.given_eq_good (.inl rfl) (fun v hv => ?_) fun hnone => ?_
    · rwa [hv, Option.getD_some] at htuple
    · rw [hnone, Option.getD_none] at htuple
      exact Checked.good.inj htuple
  have hkey : Checked.given es ⟨"primary_key_fields", "primaryKey"⟩ [] checkPrimaryKey = .good m.primaryKey :=
    Checked.given_get (.inr (hsnake (by decide))) rfl (checkPrimaryKey_eq_good h.primaryKey)
  show Checked.closed attributes es _ = _
  rw [h.only.closed, Checked.needed_name m.name_ne h.name, hwords (by decide) h.dbName, hfields, hkey,
    hwords (by decide) h.location]
  rfl

end Model

theorem Member.check_eq_good {m : Member} (h : m.Described es)
    (honly : es.Only (Member.attributes.map Checked.Attribute.inDocuments)) :
    Member.check (.mapping es) = .good m := by
  have hdb : Checked.given es ⟨"db_name", "dbName"⟩ none Checked.optionalText = .good m.dbName :=
    Checked.given_get (.inr (honly.get?_eq_none (by decide))) rfl (h.dbName ▸ Checked.optionalText_ofText? _)
  show Checked.closed Member.attributes es _ = _
  rw [honly.closed, Checked.needed_name m.name_ne h.name, hdb]
  rfl

theorem Member.checkBare_eq_good {m : Member} (h : m.InNormalForm v) : Member.checkBare v = .good m := by
  rcases h with ⟨rfl, hdb⟩ | ⟨es, rfl, h, honly⟩
  · refine Member.check_eq_good ⟨rfl, ?_⟩ fun e he => ?_
    · rw [hdb]
      rfl
    · exact ⟨"name", by decide, congrArg Prod.fst (List.mem_singleton.1 he)⟩
  · exact Member.check_eq_good h honly

namespace Enumeration
variable {e : Enumeration}

theorem checkMembers_eq_good (h : v.Lists Member.InNormalForm e.members) :
    checkMembers v = .good ⟨e.members, e.members_ne, e.members_nodup⟩ := by
  obtain ⟨vs, rfl, hvs⟩ := h
  have heach := Checked.each_eq_good (hvs.imp fun _ _ => Member.checkBare_eq_good) 0
  have hitems : Checked.items? (.list vs) = some vs := rfl
  unfold checkMembers
  rw [hitems]
  dsimp only
  rw [heach]
  dsimp only
  rw [dif_neg e.members_ne, dif_pos e.members_nodup]

theorem check_eq_good (h : e.InNormalForm es) : check (.mapping es) = .good e := by
  have hdb : Checked.given es ⟨"db_name", "dbName"⟩ none Checked.optionalText = .good e.dbName :=
    Checked.given_get (.inr (h.only.get?_eq_none (by decide))) rfl (h.dbName ▸ Checked.optionalText_ofText? _)
  have hvalues : Checked.needed es ⟨"values", "values"⟩ checkMembers =
      .good ⟨e.members, e.members_ne, e.members_nodup⟩ := by
    obtain ⟨vs, hvs, -⟩ := h.values
    refine Checked.needed_eq_good (Checked.Attribute.find?_of_get? (Entries.get?_of_get rfl ?_))
      (checkMembers_eq_good h.values)
    rw [hvs]
    nofun
  show Checked.closed attributes es _ = _
  rw [h.only.closed, Checked.needed_name e.name_ne h.name, hdb, hvalues]
  rfl

end Enumeration

theorem Document.check_eq_good {d : Document} {models enums : Value}
    (hm : models.Lists (fun m => Value.IsRecord m.InNormalForm) d.models)
    (he : enums.Lists (fun e => Value.IsRecord e.InNormalForm) d.enums) :
    Document.check (.record [("models", models), ("enums", enums)]) = .good d := by
  have hmodels : Checked.tuple Model.check models = .good d.models := by
    refine hm.tuple fun m w hw => ?_
    obtain ⟨es, rfl, h⟩ := hw
    exact Model.check_eq_good h
  have henums : Checked.tuple Enumeration.check enums = .good d.enums := by
    refine he.tuple fun e w hw => ?_
    obtain ⟨es, rfl, h⟩ := hw
    exact Enumeration.check_eq_good h
  let es : Entries := [(.text "models", models), (.text "enums", enums)]
  have honly : es.Only (attributes.map Checked.Attribute.inDocuments) := by
    simp [es, Entries.Only, attributes]
  have hmodels' : Checked.given es ⟨"models", "models"⟩ [] (Checked.tuple Model.check) = .good d.models :=
    Checked.given_of_get? rfl hmodels
  have henums' : Checked.given es ⟨"enums", "enums"⟩ [] (Checked.tuple Enumeration.check) = .good d.enums :=
    Checked.given_of_get? rfl henums
  show (Checked.closed attributes es (Prod.mk
    <$> Checked.given es ⟨"models", "models"⟩ [] (Checked.tuple Model.check)
    <*> Checked.given es ⟨"enums", "enums"⟩ [] (Checked.tuple Enumeration.check))).andThen _ = _
  rw [honly.closed, hmodels', henums']
  exact (dif_pos d.models_nodup).trans (dif_pos d.enums_nodup)

/-! ### Writing descriptions -/

theorem Value.lists_map {α : Type} {R : α → Value → Prop} {xs : List α} {f : α → Value}
    (h : ∀ x ∈ xs, R x (f x)) : (Value.list (xs.map f)).Lists R xs :=
  ⟨_, rfl, List.forall₂_map_right_iff.2 (List.forall₂_same.2 h)⟩

theorem Source.orEmpty_list (vs : List Value) : Source.orEmpty (.list vs) = .list vs := by
  cases vs <;> rfl

namespace Field

/-- The entries of a field: those that it has in each form, and further ones. -/
def entriesWith (f : Field) (storage : Value) (more : List (String × Value)) : Entries :=
  ([("name", .text f.name), ("isList", .bool f.isList), ("isRequired", .bool f.isRequired),
    ("isId", .bool f.isId), ("isUnique", .bool f.isUnique), ("hasDefaultValue", .bool f.hasDefault),
    ("isUpdatedAt", .bool f.isUpdatedAt), ("dbName", .ofText? f.dbName), ("nativeType", storage),
    ("relationName", .ofText? f.relationName), ("relationFromFields", .texts f.fromFields),
    ("relationToFields", .texts f.toFields), ("documentation", .ofText? f.documentation)] ++ more).map
    fun e => (.text e.1, e.2)

def normalForm (f : Field) : Entries := f.entriesWith (.ofText? f.nativeType) [
  ("kind", .text f.kind.word), ("enumName", .ofText? f.enumName),
  ("relationTarget", .ofText? f.relationTarget)]

theorem described_entriesWith (f : Field) {storage : Value} (h : storage.IsStorageType f.nativeType)
    (more : List (String × Value)) : f.Described (f.entriesWith storage more) :=
  ⟨rfl, rfl, rfl, rfl, rfl, rfl, rfl, rfl, h, rfl, .inl rfl, .inl rfl, rfl⟩

theorem inNormalForm_normalForm (f : Field) : f.InNormalForm f.normalForm := by
  refine ⟨f.described_entriesWith (.inl rfl) _, ?_, .inl ⟨rfl, rfl⟩, rfl, rfl⟩
  simp [Entries.Only, normalForm, entriesWith, keys, attributes]

end Field

def Model.normalForm (m : Model) : Entries := [
  (.text "name", .text m.name), (.text "dbName", .ofText? m.dbName),
  (.text "fields", .list (m.fields.map fun f => .mapping f.normalForm)),
  (.text "primaryKey", .texts m.primaryKey), (.text "schemaLocation", .ofText? m.location)]

theorem Model.inNormalForm_normalForm (m : Model) : m.InNormalForm m.normalForm := by
  refine ⟨⟨rfl, rfl, .inl (.inl rfl), rfl⟩, ?_, Value.lists_map fun f _ => ?_⟩
  · simp [Entries.Only, normalForm, attributes]
  · exact ⟨_, rfl, f.inNormalForm_normalForm⟩

def Member.record (m : Member) : Entries := [
  (.text "name", .text m.name), (.text "dbName", .ofText? m.dbName)]

def Enumeration.normalForm (e : Enumeration) : Entries := [
  (.text "name", .text e.name), (.text "dbName", .ofText? e.dbName),
  (.text "values", .list (e.members.map fun m => .mapping m.record))]

theorem Enumeration.inNormalForm_normalForm (e : Enumeration) : e.InNormalForm e.normalForm := by
  refine ⟨⟨rfl, rfl⟩, ?_, Value.lists_map fun m _ => .inr ⟨_, rfl, ⟨rfl, rfl⟩, ?_⟩⟩
  · simp [Entries.Only, normalForm, attributes]
  · simp [Entries.Only, Member.record, Member.attributes]

def Document.normalForm (d : Document) : Entries := [
  (.text "models", .list (d.models.map fun m => .mapping m.normalForm)),
  (.text "enums", .list (d.enums.map fun e => .mapping e.normalForm))]

theorem Document.inNormalForm_normalForm (d : Document) : d.InNormalForm d.normalForm := by
  constructor
  · show (Source.orEmpty (.list _)).Lists _ _
    rw [Source.orEmpty_list]
    exact Value.lists_map fun m _ => ⟨_, rfl, m.inNormalForm_normalForm⟩
  · show (Source.orEmpty (.list _)).Lists _ _
    rw [Source.orEmpty_list]
    exact Value.lists_map fun e _ => ⟨_, rfl, e.inNormalForm_normalForm⟩

end SchemaTypes
