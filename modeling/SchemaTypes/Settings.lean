import SchemaTypes.Assignment
import SchemaTypes.Json.Reading
import SchemaTypes.Text.Blank

/-!
# Settings

The settings of a run. Documents may hold more than these; what is not a setting is ignored.
-/

namespace SchemaTypes

@[ext] structure Settings where
  /-- The directory for the generated files. -/
  output : Option String := none
  /-- One set of files for each domain of the schema. -/
  multiFileDomains : Bool := false
  /-- The module that the generated code imports its helpers from. -/
  runtimeModule : String := "prisma-effect-kysely"
  previewFeatures : List String := []
  /-- The main schema file, whose neighbours name the domains. -/
  schemaPath : Option String := none
  /-- Remove what an earlier run left. -/
  cleanOutput : Bool := false
  runtimeModule_ne : runtimeModule ≠ "" := by decide
deriving Repr

instance : DecidableEq Settings := fun _ _ => decidable_of_iff _ Settings.ext_iff.symm

namespace Settings

instance : Inhabited Settings := ⟨{}⟩

/-- A directory: a text, or a mapping that holds it; a blank text is none. -/
def checkOutput (v : Value) : Checked (Option String) :=
  let inner := match v with
    | .mapping es => Entries.get es "value"
    | v => v
  match inner with
  | .text s => .good (if Text.allBlank s then none else some s)
  | v => Checked.optionalText v

/-- The parts between commas, without white space around them and without the blank ones. -/
def commaParts (s : String) : List String :=
  ((s.splitOn ",").map Text.trim).filter (· ≠ "")

/-- A list of features; a text holds the list in JSON, or else between commas. -/
def checkFeatures : Value → Checked (List String)
  | .null => .good []
  | .text s => match Json.parse s.toList with
    | .error _ => .good (commaParts s)
    | .ok ⟨.list xs, _⟩ => Checked.list Checked.text (.list xs)
    | .ok _ => .good []
  | v => Checked.list Checked.text v

/-- The module of a run that sets none. -/
def defaultModule : Checked.Named := ⟨"prisma-effect-kysely", by decide⟩

def check (v : Value) : Checked Settings :=
  Checked.record "GeneratorConfig" v fun es =>
    (fun output multiFileDomains (runtime : Checked.Named) previewFeatures schemaPath cleanOutput =>
      { output, multiFileDomains, runtimeModule := runtime.1, previewFeatures, schemaPath, cleanOutput,
        runtimeModule_ne := runtime.ne : Settings })
    <$> Checked.given es ⟨"output", "output"⟩ none checkOutput
    <*> Checked.given es ⟨"multi_file_domains", "multiFileDomains"⟩ false Checked.truth
    <*> Checked.given es ⟨"runtime_module", "runtimeModule"⟩ defaultModule Checked.name
    <*> Checked.given es ⟨"preview_features", "previewFeatures"⟩ [] checkFeatures
    <*> Checked.given es ⟨"schema_path", "schemaPath"⟩ none Checked.optionalText
    <*> Checked.given es ⟨"clean_output", "cleanOutput"⟩ false Checked.truth

/-- The settings as the entries of a record. -/
def entries (s : Settings) : List (String × Value) := [
  ("output", .ofText? s.output), ("multi_file_domains", .bool s.multiFileDomains),
  ("runtime_module", .text s.runtimeModule), ("preview_features", .texts s.previewFeatures),
  ("schema_path", .ofText? s.schemaPath), ("clean_output", .bool s.cleanOutput)]

def toValue (s : Settings) : Value := .record s.entries

/-- Sets one setting, checked alone. -/
def assign (s : Settings) (name : String) (v : Value) : Assigned Settings :=
  match name with
  | "output" => .set name (checkOutput v) fun o => { s with output := o }
  | "multi_file_domains" => .set name (Checked.truth v) fun b => { s with multiFileDomains := b }
  | "runtime_module" => .set name (Checked.name v) fun n =>
      { s with runtimeModule := n.1, runtimeModule_ne := n.ne }
  | "preview_features" => .set name (checkFeatures v) fun fs => { s with previewFeatures := fs }
  | "schema_path" => .set name (Checked.optionalText v) fun p => { s with schemaPath := p }
  | "clean_output" => .set name (Checked.truth v) fun b => { s with cleanOutput := b }
  | _ => .unknown s name

end Settings

end SchemaTypes
