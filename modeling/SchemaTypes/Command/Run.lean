import SchemaTypes.Command.Reach
import SchemaTypes.Command.Usage
import SchemaTypes.Generation
import SchemaTypes.Json.Printing

/-!
# Runs of the command

What the command does for its arguments on a disk: how it ends, what it prints, what it tells and
the file tree that it leaves. The exit code is 0 after a run without errors, 2 where the schema
cannot be rendered, 3 where a file was not written, and 4 where the document or the settings cannot
be used.
-/

namespace SchemaTypes.Command

/-- How the command ends. -/
inductive Ending where
  /-- The arguments alone decide. -/
  | answered (code : Nat)
  /-- A run is over. -/
  | finished (code : Nat)
  /-- A run broke off at something that nothing is prepared for. -/
  | broken (f : Failure)
deriving Repr

/-- What the command prints. -/
inductive Printed where
  | nothing
  | fixed (text : String)
  | summary (r : Report)
  | data (r : Report)
deriving Repr

/-- What is printed, when the times are known. -/
def Printed.text (times : Timings) : Printed → String
  | nothing => ""
  | fixed text => text
  | summary r => (r.timed times).summary ++ "\n"
  | data r => Json.spread 0 r.toValue ++ "\n"

/-- What the command did. -/
structure Response where
  ending : Ending
  printed : Printed := .nothing
  /-- What is said of arguments that cannot be read. -/
  complaint : String := ""
  notices : List Notice := []
  tree : FileTree

namespace Options

def shows (o : Options) (l : Level) : Bool :=
  match l with
  | .error => true
  | .warning => !o.quiet
  | .info => !o.quiet && 0 < o.verbosity

def printed (o : Options) (r : Report) : Printed :=
  if o.json then .data r else if o.quiet then .nothing else .summary r

end Options

def reportCode (r : Report) : Nat :=
  if !r.exportErrors.isEmpty then 3 else if r.success then 0 else 2

/-- The exit code for a failure and what is told about it; some failures have neither. -/
def failureCode : Failure → Option (Nat × Notice)
  | .render f => some (2, .generationFailed f.message)
  | .mishap _ => none
  | .invalidOverrides _ => none
  | f => some (4, .rejected f.message)

/-- What is told at the end of a run. -/
def closing (code : Nat) : Notice := if code = 0 then .succeeded else .failed code

def respond (o : Options) (start : List Notice) (r : Run) : Response :=
  let told := start ++ r.notices
  match r.outcome with
  | .ok report =>
    let code := reportCode report
    { ending := .finished code, printed := o.printed report, notices := told ++ [closing code],
      tree := r.tree }
  | .error f => match failureCode f with
    | none => { ending := .broken f, notices := told, tree := r.tree }
    | some (code, notice) =>
      { ending := .finished code, notices := told ++ [notice, closing code], tree := r.tree }

/-- Runs the command with options that are in order. -/
def start (o : Options) (disk : Disk) : Response :=
  let path := Path.ofText o.schema
  let whole := path.resolve disk.cwd
  if path.hasNul then { ending := .broken (.mishap .badValue), tree := disk.tree }
  else if !disk.hasFile whole then
    { ending := .finished 4, notices := [.schemaMissing whole.text], tree := disk.tree }
  else
    let output := (o.output.filter (· ≠ "")).getD "(from document)"
    respond o [.schemaPath whole.text, .outputPath output]
      (generateFromFile whole o.overrides .atomic o.dryRun disk)

/-- Runs the command. Only the notices that the options ask for are kept. -/
def run (args : List String) (disk : Disk) : Response :=
  match request args with
  | .error e => { ending := .answered 2, complaint := e.text, tree := disk.tree }
  | .ok .help => { ending := .answered 0, printed := .fixed helpText, tree := disk.tree }
  | .ok .version => { ending := .answered 0, printed := .fixed versionText, tree := disk.tree }
  | .ok (.run o) =>
    let r := start o disk
    { r with notices := r.notices.filter fun n => o.shows n.level }

end SchemaTypes.Command
