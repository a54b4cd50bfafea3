import SchemaTypes.File.Disk
import SchemaTypes.Notice
import SchemaTypes.Source.Parsing
import SchemaTypes.Text.Lines
import SchemaTypes.Yaml.Reading

/-!
# Loading documents

A document is a JSON or a YAML file, by the ending of its name; a file of any other ending is read
as YAML.
-/

namespace SchemaTypes.Source

inductive Format where
  | json
  | yaml
deriving Repr, DecidableEq

/-- The format that an ending says, if it says one. -/
def formatOf? (ending : String) : Option Format :=
  match Text.lowercase ending with
  | ".yaml" => some .yaml
  | ".yml" => some .yaml
  | ".json" => some .json
  | _ => none

/-- The characters of a file, with line feeds as its only line breaks. -/
def characters (disk : Disk) (path : Path) : Except Failure (List Char) :=
  match disk.read path with
  | .error _ => .error (.mishap .isDirectory)
  | .ok bytes => match Checked.decode? bytes with
    | none => .error (.mishap .undecodable)
    | some s => .ok (Text.withLineFeeds s.toList)

/-- A value that has to be a mapping. -/
def mappingOnly (what : String) (v : Value) : Except Failure Value :=
  match v with
  | .mapping es => .ok (.mapping es)
  | v => .error (.load (.notAnObject what v.kindName))

/-- Reads a text in a format. A JSON text with half of a character in it is not followed any further: it
reads as a value that cannot be used. -/
def read (format : Format) (path : Path) (cs : List Char) : Except Failure Value :=
  match format with
  | .json => match Json.parse cs with
    | .error e => .error (.load (.invalidJson path.text e cs))
    | .ok r => if r.halved then .error (.mishap .badValue) else mappingOnly "JSON object" r.value
  | .yaml => match Yaml.parse cs with
    | .error .malformed => .error (.load (.invalidYaml path.text))
    | .error (.mishap m) => .error (.mishap m)
    | .ok v => mappingOnly "YAML mapping" v

/-- The document in a file. -/
def load (disk : Disk) (path : Path) : Except Failure Value :=
  if !disk.has path then .error (.missingFile path.text)
  else if !disk.hasFile path then .error (.load (.notAFile path.text))
  else do
    read ((formatOf? path.ending).getD .yaml) path (← characters disk path)

def notices (disk : Disk) (path : Path) : List Notice :=
  if disk.hasFile path && (formatOf? path.ending).isNone then
    [.unknownEnding (Text.lowercase path.ending)]
  else []

end SchemaTypes.Source
