import SchemaTypes.Issue
import SchemaTypes.Json.Reading

/-!
# Failures

Why a run gives no generated code. The causes are values; their wording is in one place.
-/

namespace SchemaTypes

/-- Why a schema cannot be rendered. -/
inductive RenderFailure where
  /-- A model has neither an identifier field nor a composite identifier. -/
  | missingIdentifier (model : String)
  /-- A field refers to an enum that the schema does not have. -/
  | undefinedEnum (field : String) (enum : Option String) (available : List String)
  /-- A relation, which has no column, stands where a column is needed. -/
  | unmappable (field : String) (kind : String)
deriving Repr, DecidableEq

def RenderFailure.message : RenderFailure → String
  | missingIdentifier model => s!"Model '{model}' has no identifier field (@id or @@id required)."
  | undefinedEnum field enum available =>
    s!"Field '{field}' references undefined enum '" ++ enum.getD "None" ++ "'. Available enums: " ++
      Text.shownList available
  | unmappable field kind =>
    s!"Field '{field}' of kind '{kind}' cannot be mapped to a column type."

/-- Why a document cannot be read as a schema. -/
inductive LoadFailure where
  | notAFile (path : String)
  | invalidJson (path : String) (error : Json.Error) (source : List Char)
  | invalidYaml (path : String)
  | notAnObject (format : String) (found : String)
  | noSchema
  | unsupportedKind (model field kind : String)
  | invalidDocument (issues : List Issue)
  | invalidSettings (issues : List Issue)
deriving Repr

def LoadFailure.message : LoadFailure → String
  | notAFile path => s!"Schema path is not a file: {path}"
  | invalidJson path error source => s!"Invalid JSON in {path}: " ++ error.message source
  | invalidYaml path => s!"Invalid YAML in {path}"
  | notAnObject format found => s!"Expected a {format} at top level, got {found}."
  | noSchema => "Cannot find a schema in input. " ++
      "Expected top-level 'models' / 'enums' or a DMMF 'datamodel'."
  | unsupportedKind model field kind => s!"Field '{model}.{field}' has unsupported kind {kind}."
  | invalidDocument issues =>
    "Schema validation failed: " ++ Issue.headline "SchemaDocument" issues
  | invalidSettings issues =>
    "Config validation failed: " ++ Issue.headline "GeneratorConfig" issues

/-- What a value of the wrong shape does to a step that takes the shape for granted. -/
inductive Mishap where
  /-- The value has no entries to look up. -/
  | noLookup
  /-- The value is of a kind that the step is not defined for. -/
  | wrongKind
  /-- The value is of the right kind and cannot be used. -/
  | badValue
  /-- A key is not there. -/
  | noKey
  /-- A place is beyond the end. -/
  | noPlace
  /-- A number is too large. -/
  | tooLarge
  /-- Bytes are no UTF-8. -/
  | undecodable
  /-- A directory stands where a file is needed. -/
  | isDirectory
  /-- A file stands where a directory is needed. -/
  | notDirectory
deriving Repr, DecidableEq

/-- Why a run ends without a report. -/
inductive Failure where
  | render (f : RenderFailure)
  | load (f : LoadFailure)
  | mishap (m : Mishap)
  | missingFile (path : String)
  | invalidOverrides (issues : List Issue)
  | unconfiguredOutput
deriving Repr

/-- The words for a failure; a mishap has none of its own. -/
def Failure.message : Failure → String
  | render f => f.message
  | load f => f.message
  | mishap _ => ""
  | missingFile path => s!"Schema file not found: {path}"
  | invalidOverrides issues => Issue.headline "GeneratorConfig" issues
  | unconfiguredOutput => "schemagen: output path not configured.\n" ++
      "Add \"output\" to the generator config or pass -o/--output."

end SchemaTypes
