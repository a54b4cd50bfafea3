import SchemaTypes.Schema.Field

/-!
# Models

A model of the schema: a table with its fields.
-/

namespace SchemaTypes

@[ext] structure Model where
  name : String
  /-- The name of the table, where it differs. -/
  dbName : Option String := none
  fields : List Field := []
  /-- The fields of an identifier of several columns. -/
  primaryKey : List String := []
  /-- The schema file that declares the model. -/
  location : Option String := none
  name_ne : name ≠ "" := by decide
deriving Repr

instance : DecidableEq Model := fun _ _ => decidable_of_iff _ Model.ext_iff.symm

namespace Model

/-- The name of the table. -/
def table (m : Model) : String :=
  match m.dbName with
  | some t => if t = "" then m.name else t
  | none => m.name

/-- Models whose name starts with a low line are not part of the generated code. -/
def isInternal (m : Model) : Bool := m.name.toList.head? = some '_'

/-- The field of a name; of several, the last. -/
def field? (m : Model) (name : String) : Option Field :=
  m.fields.reverse.find? fun f => f.name = name

theorem field?_isSome {m : Model} {name : String} :
    (m.field? name).isSome ↔ ∃ f ∈ m.fields, f.name = name := by
  simp [field?]

/-! ### Reading -/

def attributes : List Checked.Attribute := [
  ⟨"name", "name"⟩, ⟨"db_name", "dbName"⟩, ⟨"fields", "fields"⟩, ⟨"primary_key_fields", "primaryKey"⟩,
  ⟨"schema_location", "schemaLocation"⟩]

/-- The names of an identifier's fields: a list, or a mapping that holds the list. -/
def checkPrimaryKey : Value → Checked (List String)
  | .mapping es =>
    let v := Entries.get es "fields"
    if v.isVoid then .good [] else Field.checkNames v
  | v => Field.checkNames v

def check (v : Value) : Checked Model :=
  Checked.record "ModelDescriptor" v fun es => Checked.closed attributes es <|
    (fun (name : Checked.Named) dbName fields primaryKey location =>
      { name := name.1, dbName, fields, primaryKey, location, name_ne := name.ne : Model })
    <$> Checked.needed es ⟨"name", "name"⟩ Checked.name
    <*> Checked.given es ⟨"db_name", "dbName"⟩ none Checked.optionalText
    <*> Checked.given es ⟨"fields", "fields"⟩ [] (Checked.tuple Field.check)
    <*> Checked.given es ⟨"primary_key_fields", "primaryKey"⟩ [] checkPrimaryKey
    <*> Checked.given es ⟨"schema_location", "schemaLocation"⟩ none Checked.optionalText

/-! ### Writing -/

def toValue (m : Model) : Value := .record [
  ("name", .text m.name), ("db_name", .ofText? m.dbName),
  ("fields", .list (m.fields.map Field.toValue)), ("primary_key_fields", .texts m.primaryKey),
  ("schema_location", .ofText? m.location), ("table_name", .text m.table),
  ("is_internal", .bool m.isInternal)]

def brief (m : Model) : String := s!"<Model {m.name} ({m.fields.length} fields)>"

end Model

end SchemaTypes
