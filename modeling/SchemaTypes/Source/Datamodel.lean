import SchemaTypes.Failure
import SchemaTypes.Schema.Kind
import SchemaTypes.Text.Word

/-!
# Datamodels

A datamodel is another form of a schema: the kind of a field says only whether it is a scalar, an
enum or another model, and its type names which. `normalized` brings a datamodel into the form that
schemas are read from. It takes the shape of a datamodel for granted; a value of another shape is a
mishap.
-/

namespace SchemaTypes

namespace Value

/-- The values that a loop over this value visits. -/
def visited? : Value → Option (List Value)
  | list xs => some xs
  | text s => some (s.toList.map fun c => text (String.singleton c))
  | mapping es => some (es.map fun e => scalar e.1)
  | set xs => some (xs.map scalar)
  | scalar (.bytes bs) => some (bs.map fun b => int b.toNat)
  | scalar _ => none

def entries : Value → Except Mishap Entries
  | mapping es => .ok es
  | _ => .error .noLookup

/-- The values that a loop over this value visits, none where it is void. -/
def visited (v : Value) : Except Mishap (List Value) :=
  if v.isVoid then .ok []
  else match v.visited? with
    | some xs => .ok xs
    | none => .error .wrongKind

end Value

namespace Datamodel

/-- The keys of a field that keep their names. -/
def fieldKeys : List String := [
  "name", "isList", "isRequired", "isId", "isUnique", "hasDefaultValue", "isUpdatedAt", "dbName",
  "nativeType", "relationName", "relationFromFields", "relationToFields", "documentation"]

/-- What becomes of a field that is no mapping: a value that seems to hold one of the keys is of
the wrong kind for looking it up. -/
def fieldMishap : Value → Mishap
  | .text s => if fieldKeys.any fun k => Text.occurs k.toList s.toList then .wrongKind else .noLookup
  | .list xs => if fieldKeys.any fun k => xs.any (· == .text k) then .wrongKind else .noLookup
  | .set xs => if fieldKeys.any fun k => xs.any (· == .text k) then .wrongKind else .noLookup
  | _ => .wrongKind

/-- The entries of a mapping under the keys that keep their names, in their order. -/
def keptEntries (es : Entries) : List (String × Value) :=
  fieldKeys.filterMap fun k => (es.get? k).map fun v => (k, v)

/-- A field in normal form. -/
def field (model : Value) : Value → Except Failure Value
  | .mapping es =>
    let typeName := Entries.get es "type"
    let kept := keptEntries es
    match Entries.get es "kind" with
    | .text "scalar" => .ok (.record (kept ++ [("kind", typeName)]))
    | .text "enum" =>
      .ok (.record (kept ++ [("kind", .text Kind.enum.word), ("enumName", typeName)]))
    | .text "object" =>
      .ok (.record (kept ++ [("kind", .text Kind.relation.word), ("relationTarget", typeName)]))
    | kind =>
      .error (.load (.unsupportedKind model.plain (Entries.get es "name").plain kind.shown))
  | v => .error (.mishap (fieldMishap v))

def model (v : Value) : Except Failure Value := do
  let es ← v.entries.mapError .mishap
  let name := (Entries.get? es "name").getD (.text "")
  let fields ← (← (Entries.get es "fields").visited.mapError .mishap).mapM (field name)
  return .record [("name", name), ("dbName", Entries.get es "dbName"),
    ("primaryKey", Entries.get es "primaryKey"), ("schemaLocation", Entries.get es "schemaLocation"),
    ("fields", .list fields)]

def member (v : Value) : Except Mishap Value := do
  let es ← v.entries
  return .record [("name", Entries.get es "name"), ("dbName", Entries.get es "dbName")]

def enumeration (v : Value) : Except Mishap Value := do
  let es ← v.entries
  let members ← (← (Entries.get es "values").visited).mapM member
  return .record [("name", Entries.get es "name"), ("dbName", Entries.get es "dbName"),
    ("values", .list members)]

def normalized (v : Value) : Except Failure Value := do
  let es ← v.entries.mapError .mishap
  let models ← (← (Entries.get es "models").visited.mapError .mishap).mapM model
  let enums ← ((← (Entries.get es "enums").visited.mapError .mishap).mapM enumeration).mapError
    .mishap
  return .record [("models", .list models), ("enums", .list enums)]

end Datamodel

end SchemaTypes
