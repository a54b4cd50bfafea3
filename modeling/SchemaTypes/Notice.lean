import SchemaTypes.Column.TypeNote
import SchemaTypes.Decimal.Fixed
import SchemaTypes.Domain
import SchemaTypes.Text.Shown

/-!
# Notices

What a run tells about itself while it works. A notice is a value: its level, its channel and its
words are functions of it. The times that some notices name are filled in where they are printed.
-/

namespace SchemaTypes

/-- How much a notice matters. -/
inductive Level where
  | info
  | warning
  | error
deriving Repr, DecidableEq

def Level.word : Level → String
  | info => "INFO"
  | warning => "WARNING"
  | error => "ERROR"

/-- A part of a run that takes time. -/
inductive Phase where
  | load
  | render
  | write
deriving Repr, DecidableEq

def Phase.label : Phase → String
  | load => "load_schema"
  | render => "render"
  | write => "export"

/-- A clock for a part of a run. -/
structure Timer where
  label : String := "operation"
  elapsed : Float := 0.0

def Timer.brief (t : Timer) : String := s!"<Timer {t.label}: " ++ Decimal.fixedText 4 t.elapsed ++ "s>"

/-- The seconds that each phase took. -/
abbrev Timings := Phase → Float

/-- A report on one event of a run. -/
inductive Notice where
  | unbalancedNote (field : String)
  | invalidNote (field text : String)
  | joinTablesFound (count : Nat)
  | domainsFound (rule : Domain.Rule) (count : Nat)
  | filesRendered (files lines models enums tables : Nat)
  | timed (phase : Phase)
  | unknownEnding (ending : String)
  | loaded (path : String) (models enums : Nat)
  | renderingDone (detail : String)
  | renderingFailed (message : String)
  | dryRun (files : Nat)
  | unconfigured (message : String)
  | cleaning (directory : String)
  | exportFault (message : String)
  | exported (files bytes : Nat) (directory : String)
  | exportFailed (errors : Nat)
  | schemaPath (path : String)
  | outputPath (path : String)
  | schemaMissing (path : String)
  | rejected (message : String)
  | generationFailed (message : String)
  | succeeded
  | failed (code : Nat)
deriving Repr, DecidableEq

namespace Notice

/-- How much a notice matters. -/
def level : Notice → Level
  | unbalancedNote _ => .warning
  | invalidNote _ _ => .warning
  | renderingFailed _ => .error
  | unconfigured _ => .error
  | exportFault _ => .error
  | exportFailed _ => .error
  | schemaMissing _ => .error
  | rejected _ => .error
  | generationFailed _ => .error
  | failed _ => .error
  | _ => .info

/-- The channel of a notice: the part of the program that it comes from. -/
def channel : Notice → String
  | unbalancedNote _ => "schemagen.classifier"
  | invalidNote _ _ => "schemagen.classifier"
  | joinTablesFound _ => "schemagen.relations"
  | domainsFound _ _ => "schemagen.domains"
  | filesRendered _ _ _ _ _ => "schemagen.templates"
  | timed _ => "schemagen.utils"
  | unknownEnding _ => "schemagen.generator"
  | loaded _ _ _ => "schemagen.generator"
  | renderingDone _ => "schemagen.generator"
  | renderingFailed _ => "schemagen.generator"
  | dryRun _ => "schemagen.generator"
  | unconfigured _ => "schemagen.generator"
  | cleaning _ => "schemagen.exporters"
  | exportFault _ => "schemagen.exporters"
  | exported _ _ _ => "schemagen.exporters"
  | exportFailed _ => "schemagen.exporters"
  | _ => "schemagen"

def message (times : Timings) : Notice → String
  | unbalancedNote field =>
    s!"Unbalanced parentheses in @customType for field '{field}'; annotation ignored."
  | invalidNote field text =>
    s!"Invalid @customType for field '{field}': " ++ Text.shown text ++
      " must start with 'Schema.' or be a PascalCase type name; annotation ignored."
  | joinTablesFound count => s!"Detected {count} implicit many-to-many join table(s)."
  | domainsFound .locations count => s!"Detected {count} domain(s) from schema locations."
  | domainsFound .files count => s!"Detected {count} domain(s) from schemas files."
  | domainsFound .everything _ => s!"No domains detected; using single '{Domain.shared}' domain."
  | filesRendered files lines models enums tables =>
    s!"Rendered {files} files, ~{lines} lines ({models} models, {enums} enums, {tables} join tables)."
  | timed phase => s!"Timer [{phase.label}]: " ++ Decimal.fixedText 4 (times phase) ++ " seconds"
  | unknownEnding ending => s!"Unknown extension '{ending}', parsing as YAML."
  | loaded path models enums => s!"Loaded {path}: {models} models, {enums} enums."
  | renderingDone detail =>
    s!"Rendering complete: {detail} in " ++ Decimal.fixedText 3 (times .render) ++ "s."
  | renderingFailed message => s!"Generation failed: {message}"
  | dryRun files => s!"Dry run: {files} files not written."
  | unconfigured message => message
  | cleaning directory => s!"Cleaning output directory: {directory}"
  | exportFault message => message
  | exported files bytes directory =>
    s!"Export completed: {files} files, {bytes} bytes to {directory}."
  | exportFailed errors =>
    s!"Export completed with {errors} error(s) in " ++ Decimal.fixedText 3 (times .write) ++ "s."
  | schemaPath path => s!"Schema:  {path}"
  | outputPath path => s!"Output:  {path}"
  | schemaMissing path => s!"Schema file not found: {path}"
  | rejected message => message
  | generationFailed message => s!"Generation failed: {message}"
  | succeeded => "Generation completed successfully."
  | failed code => s!"Generation failed with exit code {code}."

end Notice

namespace Field

/-- What there is to say about the type note of a field. -/
def notices (f : Field) : List Notice :=
  match f.typeNote with
  | .unbalanced => [.unbalancedNote f.name]
  | .invalid text => [.invalidNote f.name text]
  | _ => []

end Field

end SchemaTypes
