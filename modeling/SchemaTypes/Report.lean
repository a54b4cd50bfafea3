import SchemaTypes.Decimal.Fixed
import SchemaTypes.Manifest
import SchemaTypes.Text.Lines

/-!
# Reports

What a run did, as a value and as a text for people.
-/

namespace SchemaTypes

structure Stage where
  name : String := ""
  success : Bool := true
  elapsed : Float := 0.0
  detail : String := ""
deriving Repr

/-- What a run did. -/
structure Report where
  success : Bool := false
  outputDirectory : String := ""
  files : Int := 0
  bytes : Int := 0
  lines : Int := 0
  models : Int := 0
  enums : Int := 0
  joinTables : Int := 0
  elapsed : Float := 0.0
  domains : List String := []
  stages : List Stage := []
  generationErrors : List String := []
  exportErrors : List String := []
  manifest : Option Manifest := none
deriving Repr

namespace Report

def toValue (r : Report) : Value := .record [
  ("success", .bool r.success), ("output_directory", .text r.outputDirectory),
  ("total_files", .int r.files), ("total_bytes", .int r.bytes), ("total_lines", .int r.lines),
  ("total_models", .int r.models), ("total_enums", .int r.enums),
  ("total_join_tables", .int r.joinTables), ("domains", .texts r.domains),
  ("generation_errors", .texts r.generationErrors), ("export_errors", .texts r.exportErrors),
  ("files", .list ((r.manifest.map Manifest.files).getD [] |>.map FileRecord.toValue))]

/-- A line of sixty equal characters. -/
def rule (c : Char) : String := String.ofList (List.replicate 60 c)

def stageLine (s : Stage) : String :=
  "    " ++ (if s.success then "+" else "x") ++ " " ++ Text.padRight 24 s.name ++ " " ++
    Text.padLeft 7 (Decimal.fixedText 3 s.elapsed) ++ "s  " ++ s.detail

/-- A list of errors under a title, if there are any. -/
def errorLines (title : String) (errors : List String) : List String :=
  if errors.isEmpty then []
  else [rule '-', s!"  {title} ({errors.length}):"] ++ errors.map ("    x " ++ ·)

def summary (r : Report) : String :=
  Text.unlines <|
    [rule '=', "  schemagen - Generation Report", rule '=',
      "  Status:           " ++ (if r.success then "SUCCESS" else "FAILED"),
      "  Output:           " ++ r.outputDirectory,
      s!"  Models:           {r.models}",
      s!"  Enums:            {r.enums}",
      s!"  Join tables:      {r.joinTables}"] ++
    (if r.domains.isEmpty then [] else ["  Domains:          " ++ ", ".intercalate r.domains]) ++
    [s!"  Files generated:  {r.files}",
      "  Total lines:      " ++ Decimal.grouped r.lines,
      "  Total bytes:      " ++ Decimal.grouped r.bytes,
      "  Total time:       " ++ Decimal.fixedText 3 r.elapsed ++ "s",
      rule '-'] ++
    (if r.stages.isEmpty then [] else "  Pipeline Steps:" :: r.stages.map stageLine) ++
    errorLines "Generation Errors" r.generationErrors ++
    errorLines "Export Errors" r.exportErrors ++ [rule '=']

end Report

end SchemaTypes
