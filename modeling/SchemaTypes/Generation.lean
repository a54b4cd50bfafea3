import SchemaTypes.Code.Rendering
import SchemaTypes.Export
import SchemaTypes.Report
import SchemaTypes.Source.Loading

/-!
# Generation

A run renders a schema and exports the artifacts. Nothing is written before the rendering as a whole
has succeeded, and nothing at all in a dry run.
-/

namespace SchemaTypes

/-- A run: how it ended, the file tree after it, and what it told. -/
structure Run where
  outcome : Except Failure Report
  tree : FileTree
  notices : List Notice := []

namespace Run

/-- A run that ends before it changes anything. -/
def refused (d : Disk) (f : Failure) (notices : List Notice := []) : Run := ⟨.error f, d.tree, notices⟩

/-- What was told before the run. -/
def after (notices : List Notice) (r : Run) : Run := { r with notices := notices ++ r.notices }

end Run

def distinctCount (names : List String) : Nat := names.eraseDups.length

namespace Report

def ofRendering (directory : String) (sites : List Site) (r : Rendering) : Report :=
  let models := distinctCount (sites.flatMap fun s => s.scope.modelNames)
  { outputDirectory := directory, models,
    enums := distinctCount (sites.flatMap fun s => s.scope.enums.map Enumeration.name),
    joinTables := distinctCount (sites.flatMap fun s => s.scope.tables.map JoinTable.table),
    domains := r.domains,
    stages := [{ name := "Render", detail :=
      s!"{r.fileCount} files, ~" ++ Decimal.grouped r.lineCount ++ s!" lines, {models} models" }] }

def dry (report : Report) (r : Rendering) : Report :=
  { report with files := r.fileCount, lines := r.lineCount, success := true }

def exported (report : Report) (x : Exporter) : Report :=
  let m := x.manifest
  { report with
    success := x.success, files := m.fileCount, bytes := m.byteCount, lines := m.lineCount,
    manifest := some m, exportErrors := x.errors.map ExportError.message,
    stages := report.stages ++ [{ name := "Export", success := x.success, detail :=
      s!"{m.fileCount} files, " ++ Decimal.grouped m.byteCount ++ " bytes" }] }

/-- The report with the times of the run filled in: the first stage renders, the second writes. -/
def timed (times : Timings) (r : Report) : Report :=
  { r with
    elapsed := times .render + times .write,
    stages := (r.stages.zip [Phase.render, .write]).map fun (stage, phase) =>
      { stage with elapsed := times phase } }

end Report

/-- What the rendering stage tells: the rendering itself, and how it ended. -/
def renderStageNotices (d : Document) (s : Settings) (disk : Disk) : List Notice :=
  renderNotices d s disk ++
    match sites d s disk with
    | .error f => [.renderingFailed f.message, .timed .render]
    | .ok ss => match renderSites ss s.runtimeModule with
      | .error f => [.renderingFailed f.message, .timed .render]
      | .ok r => .timed .render ::
        ((Report.ofRendering "" ss r).stages.map fun stage => .renderingDone stage.detail)

/-- Writes a rendering and completes the report. -/
def exportRendering (s : Settings) (mode : WriteMode) (disk : Disk) (output : Path) (report : Report)
    (r : Rendering) : Run :=
  let x : Exporter := { directory := output.absolute disk.cwd, clean := s.cleanOutput, mode }
  let done := x.run disk.tree r.contents.drafts
  { outcome :=
      if done.aborted then .error (.mishap .badValue) else .ok (report.exported done.exporter),
    tree := done.tree, notices := done.notices }

/-- Renders a schema and exports the artifacts. -/
def generate (d : Document) (s : Settings) (mode : WriteMode) (dryRun : Bool) (disk : Disk) : Run :=
  match s.output.filter (· ≠ "") with
  | none => .refused disk .unconfiguredOutput [.unconfigured Failure.unconfiguredOutput.message]
  | some text =>
    let output := Path.ofText text
    if output.hasNul then .refused disk (.mishap .badValue)
    else Run.after (renderStageNotices d s disk) <|
      match sites d s disk with
      | .error f => .refused disk (.render f)
      | .ok ss => match renderSites ss s.runtimeModule with
        | .error f => .refused disk (.render f)
        | .ok r =>
          let report := Report.ofRendering (output.resolve disk.cwd).text ss r
          if dryRun then ⟨.ok (report.dry r), disk.tree, [.dryRun r.fileCount]⟩
          else exportRendering s mode disk output report r

/-- The settings of a run from a file: those of the file, replaced where an override is given. The
file itself is the schema file unless another one is set. -/
def overridden (s : Settings) (path : Path) (overrides : Entries) : Checked Settings :=
  let updates := overrides.filter fun e => !e.2.isNull
  let updates : Entries :=
    if s.schemaPath.isNone && !Entries.hasKey updates "schema_path" then
      updates ++ [(.text "schema_path", .text path.text)]
    else updates
  Settings.check (.mapping (Entries.putAll (s.entries.map fun e => (.text e.1, e.2)) updates))

/-- Loads a file, renders its schema and exports the artifacts. -/
def generateFromFile (path : Path) (overrides : Entries) (mode : WriteMode) (dryRun : Bool)
    (disk : Disk) : Run :=
  let told := Source.notices disk path ++ [.timed .load]
  match Source.load disk path >>= Source.parse with
  | .error f => .refused disk f told
  | .ok (d, s) => match overridden s path overrides with
    | .bad is => .refused disk (.invalidOverrides is) told
    | .good s =>
      Run.after (told ++ [.loaded path.text d.models.length d.enums.length]) <|
        generate d s mode dryRun disk

end SchemaTypes
