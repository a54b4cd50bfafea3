import SchemaTypes.Schema.Document
import SchemaTypes.Settings
import SchemaTypes.Source.Datamodel

/-!
# Schemas and settings of a document

A document holds a schema, in normal form or as a datamodel, and settings. Settings stand in a
generator block, at the top level, or in both; those at the top level count.
-/

namespace SchemaTypes.Source

/-- The key and value that an item of a list of settings holds. -/
def settingPair (v : Value) : Except Mishap (Scalar × Value) :=
  match v.visited? with
  | none => .error .wrongKind
  | some [.scalar k, x] => .ok (k, x)
  | some [_, _] => .error .wrongKind
  | some _ => .error .badValue

/-- The settings that a generator block holds under its key for them. -/
def generatorSettings (v : Value) : Except Mishap Entries :=
  if v.isVoid then .ok []
  else match v with
    | .mapping es => .ok es
    | v => match v.visited? with
      | none => .error .wrongKind
      | some xs => xs.mapM settingPair

/-- The settings of a generator block. -/
def ofGenerator (generator : Entries) : Except Mishap Entries := do
  let es := Entries.ofPairs (← generatorSettings (generator.get "config"))
  let es := match generator.get "output" with
    | .null => es
    | v => es.put (.text "output") v
  match generator.get "previewFeatures" with
  | .null => return es
  | v => return if es.hasKey "previewFeatures" then es else es.put (.text "previewFeatures") v

/-- All settings of a document. -/
def settingEntries (raw : Entries) : Except Mishap Entries := do
  let es ← match raw.get "generator" with
    | .mapping generator => ofGenerator generator
    | _ => pure []
  let es := match raw.get "config" with
    | .mapping config => es.putAll config
    | _ => es
  let path := raw.get "schemaPath"
  return if path.isVoid || es.hasKey "schemaPath" then es else es.put (.text "schemaPath") path

/-- A value, or the empty list where it is void. -/
def orEmpty (v : Value) : Value := if v.isVoid then .list [] else v

/-- The schema of a document in normal form. -/
def schemaValue (raw : Entries) : Except Failure Value :=
  let source := match raw.get "dmmf" with
    | .mapping es => es
    | _ => raw
  match Entries.get source "datamodel" with
  | .mapping es => Datamodel.normalized (.mapping es)
  | _ =>
    if raw.hasKey "models" || raw.hasKey "enums" then
      .ok (.record [("models", orEmpty (raw.get "models")), ("enums", orEmpty (raw.get "enums"))])
    else .error (.load .noSchema)

/-- The schema and the settings of a document. -/
def parse (raw : Value) : Except Failure (Document × Settings) := do
  let es ← raw.entries.mapError .mishap
  let document ← (Document.check (← schemaValue es)).toExcept.mapError fun is =>
    .load (.invalidDocument is)
  let settings ← (Settings.check (.mapping (← (settingEntries es).mapError .mishap))).toExcept.mapError
    fun is => .load (.invalidSettings is)
  return (document, settings)

end SchemaTypes.Source
