import SchemaTypes.Schema.Kind

/-!
# Fields

A field of a model. Scalar and enum fields are columns; a relation field links two models and has
no column of its own.
-/

namespace SchemaTypes

/-- The attributes of a field. -/
@[ext] structure Field.Attributes where
  name : String
  kind : Kind
  enumName : Option String := none
  isList : Bool := false
  isRequired : Bool := true
  isId : Bool := false
  isUnique : Bool := false
  hasDefault : Bool := false
  isUpdatedAt : Bool := false
  /-- The name of the column, where it differs. -/
  dbName : Option String := none
  /-- The storage type that the database is asked for. -/
  nativeType : Option String := none
  relationName : Option String := none
  relationTarget : Option String := none
  /-- The columns of this model that hold the key of the target. -/
  fromFields : List String := []
  /-- The fields of the target that `fromFields` hold. -/
  toFields : List String := []
  documentation : Option String := none
  name_ne : name ≠ "" := by decide
deriving Repr

instance : DecidableEq Field.Attributes := fun _ _ => decidable_of_iff _ Field.Attributes.ext_iff.symm

/-- A field of a model; a relation names its target. -/
@[ext] structure Field extends Field.Attributes where
  target_ne : kind = .relation → relationTarget.getD "" ≠ "" := by decide
deriving Repr

instance : DecidableEq Field := fun _ _ => decidable_of_iff _ Field.ext_iff.symm

namespace Field

/-- The field links models. -/
def isRelation (f : Field) : Bool := f.kind = .relation

def isEnum (f : Field) : Bool := f.kind = .enum

/-- The name of the column. -/
def column (f : Field) : String :=
  match f.dbName with
  | some c => if c = "" then f.name else c
  | none => f.name

/-- The database or the client gives a value on write. -/
def isGenerated (f : Field) : Bool := f.hasDefault || f.isUpdatedAt

/-- The target of a relation, or the empty text, which names no model. -/
def target (f : Field) : String := f.relationTarget.getD ""

/-! ### Reading -/

def attributes : List Checked.Attribute := [
  ⟨"name", "name"⟩, ⟨"kind", "scalarKind"⟩, ⟨"enum_name", "enumName"⟩, ⟨"is_list", "isList"⟩,
  ⟨"is_required", "isRequired"⟩, ⟨"is_id", "isId"⟩, ⟨"is_unique", "isUnique"⟩,
  ⟨"has_default_value", "hasDefaultValue"⟩, ⟨"is_updated_at", "isUpdatedAt"⟩, ⟨"db_name", "dbName"⟩,
  ⟨"native_type", "nativeType"⟩, ⟨"relation_name", "relationName"⟩,
  ⟨"relation_target", "relationTarget"⟩, ⟨"relation_from_fields", "relationFromFields"⟩,
  ⟨"relation_to_fields", "relationToFields"⟩, ⟨"documentation", "documentation"⟩]

/-- A storage type; of a list, which adds the arguments of the type, the first item. -/
def checkNativeType : Value → Checked (Option String)
  | .list [] => .good none
  | .list (v :: _) => Checked.optionalText v
  | v => Checked.optionalText v

/-- A list of names, empty where the value is absent. -/
def checkNames : Value → Checked (List String)
  | .null => .good []
  | v => Checked.tuple Checked.text v

def checkAttributes (es : Entries) : Checked Attributes :=
  let flag (name inDocuments : String) (absent : Bool) :=
    Checked.given es ⟨name, inDocuments⟩ absent Checked.truth
  let words (name inDocuments : String) :=
    Checked.given es ⟨name, inDocuments⟩ none Checked.optionalText
  (fun (name : Checked.Named) kind enumName isList isRequired isId isUnique hasDefault
      isUpdatedAt dbName nativeType relationName relationTarget fromFields toFields documentation =>
    { name := name.1, kind, enumName, isList, isRequired, isId, isUnique, hasDefault, isUpdatedAt,
      dbName, nativeType, relationName, relationTarget, fromFields, toFields, documentation,
      name_ne := name.ne : Attributes })
  <$> Checked.needed es ⟨"name", "name"⟩ Checked.name
  <*> Checked.needed es ⟨"kind", "scalarKind"⟩ Kind.check
  <*> words "enum_name" "enumName"
  <*> flag "is_list" "isList" false
  <*> flag "is_required" "isRequired" true
  <*> flag "is_id" "isId" false
  <*> flag "is_unique" "isUnique" false
  <*> flag "has_default_value" "hasDefaultValue" false
  <*> flag "is_updated_at" "isUpdatedAt" false
  <*> words "db_name" "dbName"
  <*> Checked.given es ⟨"native_type", "nativeType"⟩ none checkNativeType
  <*> words "relation_name" "relationName"
  <*> words "relation_target" "relationTarget"
  <*> Checked.given es ⟨"relation_from_fields", "relationFromFields"⟩ [] checkNames
  <*> Checked.given es ⟨"relation_to_fields", "relationToFields"⟩ [] checkNames
  <*> words "documentation" "documentation"

def check (v : Value) : Checked Field :=
  (Checked.record "FieldDescriptor" v fun es =>
    Checked.closed attributes es (checkAttributes es)).andThen fun a =>
  if h : a.kind = .relation → a.relationTarget.getD "" ≠ "" then .good { a with target_ne := h }
  else .fail (.conflict (.untargeted a.name))

/-! ### Writing -/

def toValue (f : Field) : Value := .record [
  ("name", .text f.name), ("kind", .text f.kind.word), ("enum_name", .ofText? f.enumName),
  ("is_list", .bool f.isList), ("is_required", .bool f.isRequired), ("is_id", .bool f.isId),
  ("is_unique", .bool f.isUnique), ("has_default_value", .bool f.hasDefault),
  ("is_updated_at", .bool f.isUpdatedAt), ("db_name", .ofText? f.dbName),
  ("native_type", .ofText? f.nativeType), ("relation_name", .ofText? f.relationName),
  ("relation_target", .ofText? f.relationTarget), ("relation_from_fields", .texts f.fromFields),
  ("relation_to_fields", .texts f.toFields), ("documentation", .ofText? f.documentation),
  ("is_relation", .bool f.isRelation), ("is_enum", .bool f.isEnum)]

/-- The field on one line: name, kind and marks. -/
def brief (f : Field) : String :=
  s!"<Field {f.name}: ScalarKind.{f.kind.word.map Char.toUpper}" ++
    (if f.isList then "[]" else "") ++ (if f.isRequired then "" else "?") ++
    (if f.isId then " @id" else "") ++ (if f.hasDefault then " @default" else "") ++ ">"

end Field

end SchemaTypes
