import SchemaTypes.Command.Run
import SchemaTypes.Proofs.Faults
import SchemaTypes.Proofs.Generation

/-!
# The stages of a run

A run goes through stages, and each either ends it or hands on: the path, the document, the options, the
output directory, the rendering and the export. There is one lemma for each way to end.
-/

namespace SchemaTypes

variable {d : Document} {s : Settings} {mode : WriteMode} {dryRun : Bool} {disk : Disk} {output : String}
  {r : Rendering} {x : RenderFailure}

/-- What writes the artifacts of a run. -/
def Settings.exporter (s : Settings) (output : String) (mode : WriteMode) (disk : Disk) : Exporter where
  directory := (Path.ofText output).absolute disk.cwd
  clean := s.cleanOutput
  mode := mode

namespace Command

/-- How a run with this outcome ends. -/
def endingOf : Except Failure Report → Ending
  | .ok report => .finished (reportCode report)
  | .error f => match failureCode f with
    | none => .broken f
    | some (code, _) => .finished code

theorem ending_respond (o : Options) (told : List Notice) (done : Run) :
    (respond o told done).ending = endingOf done.outcome := by
  unfold respond endingOf
  cases done.outcome with
  | ok report => rfl
  | error f =>
    dsimp only
    cases failureCode f <;> rfl

theorem reportCode_dry {report : Report} (h : report.exportErrors = []) : reportCode (report.dry r) = 0 := by
  have hnone : (report.dry r).exportErrors = [] := h
  unfold reportCode
  rw [hnone]
  rfl

theorem reportCode_exported {report : Report} {x : Exporter} :
    reportCode (report.exported x) = if x.success then 0 else 3 := by
  have herrors : (report.exported x).exportErrors = x.errors.map ExportError.message := rfl
  have hsuccess : (report.exported x).success = x.success := rfl
  unfold reportCode
  rw [herrors, hsuccess, Exporter.success]
  cases x.errors <;> rfl

/-- A run that has rendered ends well if it is dry, and else as the export does. -/
theorem endingOf_generate (houtput : s.output.filter (· ≠ "") = some output)
    (hnul : ¬ (Path.ofText output).hasNul) (h : render d s disk = .ok r) :
    endingOf (generate d s mode dryRun disk).outcome =
      let done := (s.exporter output mode disk).run disk.tree r.contents.drafts
      if dryRun then .finished 0
      else if done.aborted then .broken (.mishap .badValue)
      else .finished (if done.exporter.success then 0 else 3) := by
  obtain ⟨report, hreport, hrun⟩ := generate_of_rendered houtput mode dryRun hnul h
  rw [hrun]
  cases dryRun with
  | true => exact congrArg Ending.finished (reportCode_dry hreport)
  | false =>
    show endingOf (exportRendering s mode disk (Path.ofText output) report r).outcome =
      if ((s.exporter output mode disk).run disk.tree r.contents.drafts).aborted then _ else _
    unfold exportRendering
    dsimp only
    change endingOf (if ((s.exporter output mode disk).run disk.tree r.contents.drafts).aborted then _ else _) = _
    split
    · rfl
    · exact congrArg Ending.finished reportCode_exported

variable {o : Options} {args : List String} {code : Nat} {own : Settings}

namespace Options

/-- The path of the document, from the root. -/
def place (o : Options) (disk : Disk) : Path := (Path.ofText o.schema).resolve disk.cwd

/-- The file of the document is there. -/
def FindsFile (o : Options) (disk : Disk) : Prop :=
  ¬ (Path.ofText o.schema).hasNul ∧ disk.hasFile (o.place disk)

/-- The run reads the document `d`, and `s` are its settings. -/
def Loads (o : Options) (disk : Disk) (d : Document) (s : Settings) : Prop :=
  ∃ own, Source.load disk (o.place disk) >>= Source.parse = .ok (d, own) ∧
    overridden own (o.place disk) o.overrides = .good s

/-- The run reads the document, and its output goes to a directory. -/
def Starts (o : Options) (disk : Disk) (d : Document) (s : Settings) (output : String) : Prop :=
  o.Loads disk d s ∧ s.output.filter (· ≠ "") = some output

theorem Loads.unique {d' : Document} {s' : Settings} (h : o.Loads disk d s) (h' : o.Loads disk d' s') :
    d' = d ∧ s' = s := by
  obtain ⟨own, hload, hs⟩ := h
  obtain ⟨own', hload', hs'⟩ := h'
  rw [hload] at hload'
  cases hload'
  rw [hs] at hs'
  cases hs'
  exact ⟨rfl, rfl⟩

theorem Starts.unique {d' : Document} {s' : Settings} {output' : String} (h : o.Starts disk d s output)
    (h' : o.Starts disk d' s' output') : d' = d ∧ s' = s ∧ output' = output := by
  obtain ⟨rfl, rfl⟩ := h.1.unique h'.1
  exact ⟨rfl, rfl, Option.some.inj (h'.2.symm.trans h.2)⟩

theorem Starts.exists_iff {α : Type} {P : Document → Settings → String → α → Prop}
    (h : o.Starts disk d s output) :
    (∃ d s output a, o.Starts disk d s output ∧ P d s output a) ↔ ∃ a, P d s output a := by
  refine ⟨?_, fun ⟨a, ha⟩ => ⟨d, s, output, a, h, ha⟩⟩
  rintro ⟨d', s', output', a, h', ha⟩
  obtain ⟨rfl, rfl, rfl⟩ := h.unique h'
  exact ⟨a, ha⟩

theorem Loads.hasFile (h : o.Loads disk d s) : disk.hasFile (o.place disk) := by
  obtain ⟨own, hload, -⟩ := h
  obtain ⟨v, hload, -⟩ := Traversal.bind_eq_ok_iff.1 hload
  unfold Source.load at hload
  split at hload
  · cases hload
  · split at hload
    · cases hload
    next hfile => simpa using hfile

/-! ### The stages of the command -/

theorem ending_of_nul (h : (Path.ofText o.schema).hasNul) :
    (start o disk).ending = .broken (.mishap .badValue) := by
  unfold start
  dsimp only
  rw [if_pos h]

theorem ending_of_missing (hnul : ¬ (Path.ofText o.schema).hasNul) (h : ¬ disk.hasFile (o.place disk)) :
    (start o disk).ending = .finished 4 := by
  unfold start
  dsimp only
  have hmissing : (!disk.hasFile ((Path.ofText o.schema).resolve disk.cwd)) = true := by simpa [place] using h
  rw [if_neg hnul, if_pos hmissing]

theorem ending_start (h : o.FindsFile disk) : (start o disk).ending =
    endingOf (generateFromFile (o.place disk) o.overrides .atomic o.dryRun disk).outcome := by
  have hfile : ¬ (!disk.hasFile ((Path.ofText o.schema).resolve disk.cwd)) = true := by simpa [place] using h.2
  unfold start
  dsimp only
  rw [if_neg h.1, if_neg hfile]
  exact ending_respond o _ _

theorem ending_of_unread (h : o.FindsFile disk) {f : Failure}
    (hload : Source.load disk (o.place disk) >>= Source.parse = .error f) :
    (start o disk).ending = endingOf (.error f) := by
  rw [ending_start h]
  unfold generateFromFile
  dsimp only
  rw [hload]
  rfl

theorem ending_of_refused (h : o.FindsFile disk)
    (hload : Source.load disk (o.place disk) >>= Source.parse = .ok (d, own)) {is : List Issue}
    (hs : overridden own (o.place disk) o.overrides = .bad is) :
    (start o disk).ending = .broken (.invalidOverrides is) := by
  rw [ending_start h]
  unfold generateFromFile
  dsimp only
  rw [hload]
  dsimp only
  rw [hs]
  rfl

theorem ending_of_loads (h : o.FindsFile disk) (hload : o.Loads disk d s) :
    (start o disk).ending = endingOf (generate d s .atomic o.dryRun disk).outcome := by
  obtain ⟨own, hload, hs⟩ := hload
  rw [ending_start h]
  unfold generateFromFile
  dsimp only
  rw [hload]
  dsimp only
  rw [hs]
  rfl

end Options

theorem run_eq_start (h : request args = .ok (.run o)) : (run args disk).ending = (start o disk).ending := by
  unfold run
  rw [h]

/-- The exit code of a run that is over. -/
def Ending.code? : Ending → Option Nat
  | .finished code => some code
  | _ => none

theorem Ending.code?_eq_some {e : Ending} : e.code? = some code ↔ e = .finished code := by
  cases e <;> simp [code?]

/-- A disk with a document of no models. -/
def emptyDocument : Disk where
  tree := FileTree.empty.put ["schema.json"] (.file (bytesOf "\x7b\"models\": []\x7d")) rfl (by decide)

end Command

end SchemaTypes
