import SchemaTypes.Proofs.Command.Stages
import SchemaTypes.Proofs.Source.Failures

/-!
# What the exit codes say

The exit code of a run says what has happened (`Options.Truthful`). A run that does not start has the
code 4. The code of one that starts is decided by its rendering, and after that by the faults of its
export, since the document, the settings and the directory of the run are no others than its own
(`Starts.unique`).
-/

namespace SchemaTypes.Command

variable {d : Document} {s own : Settings} {disk : Disk} {output : String} {r : Rendering} {x : RenderFailure}
  {o : Options} {args : List String} {code : Nat}

/-- The exit code says what has happened. -/
structure Options.Truthful (o : Options) (disk : Disk) (code : Nat) : Prop where
  /-- Everything is done. -/
  success : code = 0 ↔ ∃ d s output r, o.Starts disk d s output ∧ render d s disk = .ok r ∧
    (o.dryRun ∨ (s.exporter output .atomic disk).directoryFault disk.tree = none ∧
      ∀ f ∈ (s.exporter output .atomic disk).faults disk.tree r.contents.drafts, f = none)
  /-- The directory cannot be made, or an artifact cannot be written. -/
  unwritten : code = 3 ↔ ∃ d s output r, o.Starts disk d s output ∧ render d s disk = .ok r ∧
    o.dryRun = false ∧ ((s.exporter output .atomic disk).directoryFault disk.tree ≠ none ∨
      ∃ f ∈ (s.exporter output .atomic disk).faults disk.tree r.contents.drafts, f ≠ none)
  unrendered : code = 2 ↔ ∃ d s output x, o.Starts disk d s output ∧ render d s disk = .error x
  /-- The document or the settings cannot be used. -/
  unusable : code = 4 ↔ ¬ disk.hasFile (o.place disk) ∨
    (∃ f, Source.load disk (o.place disk) >>= Source.parse = .error (.load f)) ∨
    ∃ d s, o.Loads disk d s ∧ s.output.filter (· ≠ "") = none

namespace Options

/-- A run that does not start. -/
theorem Truthful.of_unusable (hstarts : ∀ d s output, ¬ o.Starts disk d s output)
    (h : ¬ disk.hasFile (o.place disk) ∨
      (∃ f, Source.load disk (o.place disk) >>= Source.parse = .error (.load f)) ∨
      ∃ d s, o.Loads disk d s ∧ s.output.filter (· ≠ "") = none) : o.Truthful disk 4 where
  success := iff_of_false (by decide) fun ⟨d, s, output, _, hs, _⟩ => hstarts d s output hs
  unwritten := iff_of_false (by decide) fun ⟨d, s, output, _, hs, _⟩ => hstarts d s output hs
  unrendered := iff_of_false (by decide) fun ⟨d, s, output, _, hs, _⟩ => hstarts d s output hs
  unusable := iff_of_true rfl h

/-- A run that starts, whose document, settings and directory are therefore known. -/
theorem Truthful.of_starts (hstarts : o.Starts disk d s output) (hne : code ≠ 4)
    (h0 : code = 0 ↔ ∃ r, render d s disk = .ok r ∧
      (o.dryRun ∨ (s.exporter output .atomic disk).directoryFault disk.tree = none ∧
        ∀ f ∈ (s.exporter output .atomic disk).faults disk.tree r.contents.drafts, f = none))
    (h3 : code = 3 ↔ ∃ r, render d s disk = .ok r ∧ o.dryRun = false ∧
      ((s.exporter output .atomic disk).directoryFault disk.tree ≠ none ∨
        ∃ f ∈ (s.exporter output .atomic disk).faults disk.tree r.contents.drafts, f ≠ none))
    (h2 : code = 2 ↔ ∃ x, render d s disk = .error x) : o.Truthful disk code where
  success := by rw [h0, hstarts.exists_iff]
  unwritten := by rw [h3, hstarts.exists_iff]
  unrendered := by rw [h2, hstarts.exists_iff]
  unusable := by
    refine iff_of_false hne ?_
    rintro (hfile | ⟨f, hload⟩ | ⟨d', s', hloads, hnone⟩)
    · exact hfile hstarts.1.hasFile
    · obtain ⟨own, hown, -⟩ := hstarts.1
      rw [hload] at hown
      cases hown
    · obtain ⟨rfl, rfl⟩ := hstarts.1.unique hloads
      rw [hstarts.2] at hnone
      cases hnone

theorem Truthful.of_unrendered (hstarts : o.Starts disk d s output) (hr : render d s disk = .error x) :
    o.Truthful disk 2 := by
  have hrendered (r : Rendering) : render d s disk ≠ .ok r := by simp [hr]
  exact .of_starts hstarts (by decide) (iff_of_false (by decide) fun ⟨r, hok, _⟩ => hrendered r hok)
    (iff_of_false (by decide) fun ⟨r, hok, _⟩ => hrendered r hok) (iff_of_true rfl ⟨x, hr⟩)

theorem Truthful.of_rendered (hstarts : o.Starts disk d s output) (hr : render d s disk = .ok r)
    (hcode : code = 0 ∨ code = 3)
    (h0 : code = 0 ↔ o.dryRun ∨ (s.exporter output .atomic disk).directoryFault disk.tree = none ∧
      ∀ f ∈ (s.exporter output .atomic disk).faults disk.tree r.contents.drafts, f = none)
    (h3 : code = 3 ↔ o.dryRun = false ∧ ((s.exporter output .atomic disk).directoryFault disk.tree ≠ none ∨
      ∃ f ∈ (s.exporter output .atomic disk).faults disk.tree r.contents.drafts, f ≠ none)) :
    o.Truthful disk code := by
  refine .of_starts hstarts (by omega) ?_ ?_ (iff_of_false (by omega) fun ⟨x, hx⟩ => by simp [hr] at hx)
  · rw [h0, hr]
    simp only [Except.ok.injEq, exists_eq_left']
  · rw [h3, hr]
    simp only [Except.ok.injEq, exists_eq_left']

theorem truthful_of_rendered (hfile : o.FindsFile disk) (hstarts : o.Starts disk d s output)
    (hnul : ¬ (Path.ofText output).hasNul) (hr : render d s disk = .ok r)
    (h : (start o disk).ending = .finished code) : o.Truthful disk code := by
  rw [ending_of_loads hfile hstarts.1, endingOf_generate hstarts.2 hnul hr] at h
  dsimp only at h
  cases hdry : o.dryRun with
  | true =>
    rw [hdry] at h
    cases h
    exact .of_rendered hstarts hr (.inl rfl) (iff_of_true rfl (.inl hdry))
      (iff_of_false (by decide) fun hreal => by simp [hdry] at hreal)
  | false =>
    rw [hdry, if_neg Bool.false_ne_true] at h
    split at h
    · cases h
    next hend =>
      have hend := Bool.eq_false_iff.2 hend
      have hgood := Exporter.success_run_iff hend
      have hbad := Exporter.success_run_eq_false_iff rfl hend
      rw [and_iff_right (show (s.exporter output .atomic disk).success from rfl)] at hgood
      cases hsuccess : ((s.exporter output .atomic disk).run disk.tree r.contents.drafts).exporter.success with
      | true =>
        rw [hsuccess] at h hgood hbad
        cases h
        refine .of_rendered hstarts hr (.inl rfl) (iff_of_true rfl (.inr (hgood.1 rfl))) ?_
        exact iff_of_false (by decide) fun hfault => Bool.noConfusion (hbad.2 hfault.2)
      | false =>
        rw [hsuccess] at h hgood hbad
        cases h
        refine .of_rendered hstarts hr (.inr rfl) (iff_of_false (by decide) ?_)
          (iff_of_true rfl ⟨hdry, hbad.1 rfl⟩)
        rintro (hdry' | hall)
        · simp [hdry] at hdry'
        · exact Bool.noConfusion (hgood.2 hall)

/-- The exit code of a run that has one says what has happened. -/
theorem truthful_of_finished (h : (start o disk).ending = .finished code) : o.Truthful disk code := by
  have hnul : ¬ (Path.ofText o.schema).hasNul := by
    intro hnul
    rw [ending_of_nul hnul] at h
    cases h
  by_cases hfile : disk.hasFile (o.place disk)
  case neg =>
    rw [ending_of_missing hnul hfile] at h
    cases h
    exact .of_unusable (fun d s output hs => hfile hs.1.hasFile) (.inl hfile)
  have hfinds : o.FindsFile disk := ⟨hnul, hfile⟩
  cases hload : Source.load disk (o.place disk) >>= Source.parse with
  | error f =>
    rw [ending_of_unread hfinds hload] at h
    cases Source.load_parse_eq_error hfile hload with
    | mishap m => cases h
    | load f =>
      cases h
      refine .of_unusable (fun d s output hs => ?_) (.inr (.inl ⟨f, hload⟩))
      obtain ⟨own, hown, -⟩ := hs.1
      rw [hload] at hown
      cases hown
  | ok loaded =>
    obtain ⟨d, own⟩ := loaded
    cases hs : overridden own (o.place disk) o.overrides with
    | bad is =>
      rw [ending_of_refused hfinds hload hs] at h
      cases h
    | good s =>
      have hloads : o.Loads disk d s := ⟨own, hload, hs⟩
      cases houtput : s.output.filter (· ≠ "") with
      | none =>
        rw [ending_of_loads hfinds hloads, generate_of_unconfigured houtput] at h
        cases h
        refine .of_unusable (fun d' s' output hstarts => ?_) (.inr (.inr ⟨d, s, hloads, houtput⟩))
        obtain ⟨rfl, rfl⟩ := hloads.unique hstarts.1
        have hsome := hstarts.2
        rw [houtput] at hsome
        cases hsome
      | some output =>
        have hstarts : o.Starts disk d s output := ⟨hloads, houtput⟩
        by_cases hnul : (Path.ofText output).hasNul
        · rw [ending_of_loads hfinds hloads, generate_of_nul houtput hnul] at h
          cases h
        cases hr : render d s disk with
        | error x =>
          rw [ending_of_loads hfinds hloads, generate_of_unrendered houtput hnul hr] at h
          cases h
          exact .of_unrendered hstarts hr
        | ok r => exact truthful_of_rendered hfinds hstarts hnul hr h

end Options

/-- Whenever the command gives an exit code, the code says what has happened. -/
theorem exit_code_truthful (h : (run args disk).ending = .finished code) :
    ∃ o, request args = .ok (.run o) ∧ o.Truthful disk code := by
  cases hrequest : request args with
  | error e =>
    unfold run at h
    rw [hrequest] at h
    cases h
  | ok what =>
    cases what with
    | help =>
      unfold run at h
      rw [hrequest] at h
      cases h
    | version =>
      unfold run at h
      rw [hrequest] at h
      cases h
    | run o =>
      rw [run_eq_start hrequest] at h
      exact ⟨o, rfl, Options.truthful_of_finished h⟩

/-- The output directory cannot be made below a file. -/
theorem exit_code_truthful_blocked :
    let args := ["-s", "schema.json", "-o", "schema.json/generated"]
    (run args emptyDocument).ending = .finished 3 ∧
      ∃ o, request args = .ok (.run o) ∧ o.Truthful emptyDocument 3 := by
  intro args
  have h : (run args emptyDocument).ending = .finished 3 := Ending.code?_eq_some.1 (by decide +kernel)
  exact ⟨h, exit_code_truthful h⟩

end SchemaTypes.Command
