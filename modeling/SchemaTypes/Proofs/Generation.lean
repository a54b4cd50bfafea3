import SchemaTypes.Generation
import SchemaTypes.Proofs.Rendering.Columns
import SchemaTypes.Proofs.Rendering.Places

/-!
# What a run does to the file tree

A run changes the tree in one place: where it exports what it has rendered (`generate_cases`). So it
changes what is below the output directory and nothing else, if the paths of the artifacts descend
(`generate_below`), and a run that reports success has written every artifact (`generate_complete`).
-/

namespace SchemaTypes
open FileTree

variable {d : Document} {s : Settings} {mode : WriteMode} {dryRun : Bool} {disk : Disk} {r : Rendering}
  {output : String} {report : Report}

/-- A run leaves the tree alone, and then it is a dry run or has failed, or it exports a rendering. -/
theorem generate_cases (d : Document) (mode : WriteMode) (dryRun : Bool) (disk : Disk)
    (houtput : s.output = some output) :
    (generate d s mode dryRun disk).tree = disk.tree ∧
        (dryRun ∨ ∃ f, (generate d s mode dryRun disk).outcome = .error f) ∨
      dryRun = false ∧ ∃ r report, render d s disk = .ok r ∧
        (generate d s mode dryRun disk).tree =
          (exportRendering s mode disk (Path.ofText output) report r).tree ∧
        (generate d s mode dryRun disk).outcome =
          (exportRendering s mode disk (Path.ofText output) report r).outcome := by
  unfold generate
  rw [houtput, Option.filter_some]
  split
  · exact .inl ⟨rfl, .inr ⟨_, rfl⟩⟩
  next text htext =>
    have htext : output = text := by
      split at htext
      · exact Option.some.inj htext
      · cases htext
    subst htext
    dsimp only
    split
    · exact .inl ⟨rfl, .inr ⟨_, rfl⟩⟩
    · dsimp only [Run.after]
      split
      · exact .inl ⟨rfl, .inr ⟨_, rfl⟩⟩
      next ss hss =>
        split
        · exact .inl ⟨rfl, .inr ⟨_, rfl⟩⟩
        next r hr =>
          cases dryRun with
          | true => exact .inl ⟨rfl, .inl rfl⟩
          | false => exact .inr ⟨rfl, r, _, Traversal.bind_eq_ok_iff.2 ⟨ss, hss, hr⟩, rfl, rfl⟩

/-! ### The stages of generating -/

section Stages
variable {x : RenderFailure}

theorem generate_of_unconfigured (h : s.output.filter (· ≠ "") = none) :
    (generate d s mode dryRun disk).outcome = .error .unconfiguredOutput := by
  unfold generate
  rw [h]
  rfl

variable (houtput : s.output.filter (· ≠ "") = some output)
include houtput

theorem generate_of_nul (hnul : (Path.ofText output).hasNul) :
    (generate d s mode dryRun disk).outcome = .error (.mishap .badValue) := by
  unfold generate
  rw [houtput]
  dsimp only
  rw [if_pos hnul]
  rfl

theorem generate_of_unrendered (hnul : ¬ (Path.ofText output).hasNul) (h : render d s disk = .error x) :
    (generate d s mode dryRun disk).outcome = .error (.render x) := by
  unfold generate
  rw [houtput]
  dsimp only
  rw [if_neg hnul]
  rcases Traversal.bind_eq_error_iff.1 h with h | ⟨ss, hss, h⟩
  · rw [h]
    rfl
  · rw [hss]
    dsimp only
    rw [h]
    rfl

theorem generate_of_rendered (mode : WriteMode) (dryRun : Bool) (hnul : ¬ (Path.ofText output).hasNul)
    (h : render d s disk = .ok r) : ∃ report : Report, report.exportErrors = [] ∧
      (generate d s mode dryRun disk).outcome = if dryRun then .ok (report.dry r)
      else (exportRendering s mode disk (Path.ofText output) report r).outcome := by
  obtain ⟨ss, hss, hr⟩ := Traversal.bind_eq_ok_iff.1 h
  refine ⟨Report.ofRendering ((Path.ofText output).resolve disk.cwd).text ss r, rfl, ?_⟩
  unfold generate
  rw [houtput]
  dsimp only
  rw [if_neg hnul, hss]
  dsimp only
  rw [hr]
  cases dryRun <;> rfl

/-- A run that renders its sites tells of it, and then exports the rendering or not. -/
theorem generate_of_sites (mode : WriteMode) (dryRun : Bool) {ss : List Site}
    (hnul : ¬ (Path.ofText output).hasNul) (hss : sites d s disk = .ok ss)
    (hr : renderSites ss s.runtimeModule = .ok r) :
    let report := Report.ofRendering ((Path.ofText output).resolve disk.cwd).text ss r
    generate d s mode dryRun disk = .after (renderStageNotices d s disk)
      (if dryRun then ⟨.ok (report.dry r), disk.tree, [.dryRun r.fileCount]⟩
      else exportRendering s mode disk (Path.ofText output) report r) := by
  unfold generate
  rw [houtput]
  dsimp only
  rw [if_neg hnul, hss]
  dsimp only
  rw [hr]

end Stages

theorem exists_sites_of_report (h : (generate d s mode dryRun disk).outcome = .ok report) :
    ∃ output ss r, s.output.filter (· ≠ "") = some output ∧ ¬ (Path.ofText output).hasNul ∧
      sites d s disk = .ok ss ∧ renderSites ss s.runtimeModule = .ok r := by
  cases houtput : s.output.filter (· ≠ "") with
  | none =>
    rw [generate_of_unconfigured houtput] at h
    cases h
  | some output =>
    by_cases hnul : (Path.ofText output).hasNul
    · rw [generate_of_nul houtput hnul] at h
      cases h
    · cases hrender : render d s disk with
      | error x =>
        rw [generate_of_unrendered houtput hnul hrender] at h
        cases h
      | ok r =>
        obtain ⟨ss, hss, hr⟩ := Traversal.bind_eq_ok_iff.1 hrender
        exact ⟨output, ss, r, rfl, hnul, hss, hr⟩

theorem exportRendering_eq_ok {path : Path} {base : Report}
    (h : (exportRendering s mode disk path base r).outcome = .ok report) :
    let done := Exporter.run { directory := path.absolute disk.cwd, clean := s.cleanOutput, mode } disk.tree
      r.contents.drafts
    done.aborted = false ∧ report = base.exported done.exporter := by
  unfold exportRendering at h
  dsimp only at h
  split at h
  · cases h
  next hend => exact ⟨Bool.eq_false_iff.2 hend, (Except.ok.inj h).symm⟩

/-! ### Nothing is written -/

/-- The run has failed, and not over a path that no system call takes. -/
def Run.Failed (run : Run) : Prop := ∃ f, run.outcome = .error f ∧ f ≠ .mishap .badValue

/-- An export notes what it cannot write, and goes on. -/
theorem exportRendering_not_failed (path : Path) (report : Report) (r : Rendering) :
    ¬ (exportRendering s mode disk path report r).Failed := by
  rintro ⟨f, hf, hne⟩
  unfold exportRendering at hf
  dsimp only at hf
  split at hf
  · cases hf
    exact hne rfl
  · cases hf

theorem generate_unchanged (h : dryRun ∨ (generate d s mode dryRun disk).Failed) :
    (generate d s mode dryRun disk).tree = disk.tree := by
  cases houtput : s.output with
  | none =>
    unfold generate
    rw [houtput]
    rfl
  | some output =>
    rcases generate_cases d mode dryRun disk houtput with ⟨hsame, -⟩ | ⟨hdry, r, report, -, -, hout⟩
    · exact hsame
    · rcases h with h | ⟨f, hf, hne⟩
      · rw [hdry] at h
        cases h
      · exact absurd ⟨f, hout ▸ hf, hne⟩ (exportRendering_not_failed _ report r)

/-- A run from a file is refused, or it is the run of the schema and the settings that the file and the
overrides give. -/
theorem generateFromFile_cases (path : Path) (overrides : Entries) (mode : WriteMode) (dryRun : Bool)
    (disk : Disk) :
    (generateFromFile path overrides mode dryRun disk).tree = disk.tree ∨
      ∃ d s, (generateFromFile path overrides mode dryRun disk).tree = (generate d s mode dryRun disk).tree ∧
        (generateFromFile path overrides mode dryRun disk).outcome =
          (generate d s mode dryRun disk).outcome := by
  unfold generateFromFile
  dsimp only
  split
  · exact .inl rfl
  · split
    · exact .inl rfl
    · exact .inr ⟨_, _, rfl, rfl⟩

/-- A dry run changes nothing, and neither does a run that fails: whatever the file, the document, the
settings or a domain is refused for, nothing has been cleaned or written yet. -/
theorem failed_run_unchanged (mode : WriteMode) (dryRun : Bool) (disk : Disk) :
    (∀ d s, dryRun ∨ (generate d s mode dryRun disk).Failed →
      (generate d s mode dryRun disk).tree = disk.tree) ∧
    ∀ path overrides, dryRun ∨ (generateFromFile path overrides mode dryRun disk).Failed →
      (generateFromFile path overrides mode dryRun disk).tree = disk.tree := by
  refine ⟨fun d s h => generate_unchanged h, fun path overrides h => ?_⟩
  rcases generateFromFile_cases path overrides mode dryRun disk with hsame | ⟨d, s, htree, hout⟩
  · exact hsame
  · rw [htree]
    refine generate_unchanged (h.imp_right fun ⟨f, hf, hne⟩ => ⟨f, ?_, hne⟩)
    rw [← hout, hf]

theorem failed_of_render_error (hs : s.output = some output) (hne : output ≠ "")
    (hnul : ¬ (Path.ofText output).hasNul) {x : RenderFailure} (h : render d s disk = .error x) :
    (generate d s mode dryRun disk).Failed := by
  have houtput : s.output.filter (· ≠ "") = some output := by simp [hs, hne]
  exact ⟨.render x, generate_of_unrendered houtput hnul h, by simp⟩

/-- The users, which come last, have no identifier. What an earlier run wrote stays. -/
theorem failed_run_unchanged_users :
    let invoice : Model := { name := "Invoice", location := some "billing.prisma", fields := [
      { name := "id", kind := .string, isId := true }] }
    let user : Model := { name := "User", location := some "users.prisma" }
    let d : Document := { models := [invoice, user] }
    let s : Settings := { output := some "out", multiFileDomains := true, cleanOutput := true }
    let t := (FileTree.empty.put ["out"] .directory rfl (by simp)).put ["out", "old.ts"] (.file [35]) rfl
      (by decide)
    let run := generate d s .atomic false { tree := t }
    let fromFile := generateFromFile (Path.ofText "schema.yaml") [] .atomic false { tree := t }
    (run.Failed ∧ fromFile.Failed) ∧ run.tree = t ∧ fromFile.tree = t := by
  intro invoice user d s t run fromFile
  have hfail : ¬ ∃ r, render d s { tree := t } = .ok r := by
    rintro ⟨r, hr⟩
    obtain ⟨ts, -, hr⟩ := (render_domains_eq_ok (s := s)).1 hr
    obtain ⟨x, hx, huser⟩ : ∃ x ∈ (Domain.detect d { tree := t } none).2, user ∈ x.models := by
      obtain ⟨key, hkey, hsome⟩ := Domain.exists_grouped_detect d { tree := t } none
      rw [← List.mem_flatMap, hkey.models_perm.mem_iff, List.mem_filter]
      exact ⟨by simp [d], (hsome user (by simp [d])).2 (.inl ⟨"users.prisma", rfl, by decide⟩)⟩
    obtain ⟨types, htypes⟩ := exists_renderSites_eq_ok.1 ⟨r, hr⟩ _ (List.mem_map_of_mem hx)
    have hbrand := (Scope.exists_typesFile_eq_ok.1 ⟨types, htypes⟩ user
      (mem_publicModels.2 ⟨huser, by decide⟩)).1
    have hid := (Model.exists_brand_eq_ok.1 hbrand).1
    simp [Model.Identified, user] at hid
  have hrun : run.Failed := by
    cases hr : render d s { tree := t } with
    | ok r => exact absurd ⟨r, hr⟩ hfail
    | error x => exact failed_of_render_error rfl (by decide) (by decide) hr
  have hfile : fromFile.Failed := ⟨.missingFile "schema.yaml", rfl, by simp⟩
  obtain ⟨hgenerate, hfromFile⟩ := failed_run_unchanged .atomic false { tree := t }
  exact ⟨⟨hrun, hfile⟩, hgenerate d s (.inr hrun), hfromFile _ _ (.inr hfile)⟩

/-! ### Below the output directory -/

/-- The artifacts have paths that descend if and only if no domain has an empty name or the name `..`.
If they do, a run changes nothing but what is below the output directory, apart from new directories
that lead to it. -/
theorem generate_below (htree : disk.tree.Slashless) (h : render d s disk = .ok r) :
    ((∀ a ∈ r.artifacts, (Path.ofText a.path).Descends) ↔
      (s.multiFileDomains →
        ∀ x ∈ (Domain.detect d disk s.schemaPath).2, x.name ≠ "" ∧ x.name ≠ "..")) ∧
    ((∀ a ∈ r.artifacts, (Path.ofText a.path).Descends) → ∀ output, s.output = some output →
      ∀ mode dryRun, Frame ((Path.ofText output).absolute disk.cwd <+: ·)
        (· <+: (Path.ofText output).absolute disk.cwd) disk.tree (generate d s mode dryRun disk).tree) := by
  refine ⟨render_descends_iff htree h, ?_⟩
  intro hpaths output houtput mode dryRun
  rcases generate_cases d mode dryRun disk houtput with ⟨hsame, -⟩ | ⟨-, _, _, hr, hdone, -⟩
  · rw [hsame]
    exact .refl
  · rw [h] at hr
    cases hr
    rw [hdone]
    exact Exporter.frame_run (x := { directory := _, clean := s.cleanOutput, mode })
      (Path.dotdot_not_mem_absolute disk.cwd _)
      ((Contents.forall_mem_drafts fun path => (Path.ofText path).Descends).2 (contents_descend h hpaths))

/-- A domain with the name `..` is written beside the output directory. -/
theorem generate_not_below :
    let d : Document := { models := [{ name := "_Draft", location := some ".." }] }
    let s : Settings := { output := some "out", multiFileDomains := true }
    (∃ r, render d s {} = .ok r ∧ ¬ ∀ a ∈ r.artifacts, (Path.ofText a.path).Descends) ∧
      (generate d s .atomic false {}).tree.isFile ["src", "generated", "index.ts"] := by
  intro d s
  constructor
  · obtain ⟨r, hr⟩ : ∃ r, render d s {} = .ok r := Traversal.exists_ok_of_isOk (by decide +kernel)
    refine ⟨r, hr, fun hpaths => ?_⟩
    have hnames := (render_descends_iff slashless_empty hr).1 hpaths rfl
    have hup : ".." ∈ (Domain.detect d {} none).2.map Domain.name := by decide +kernel
    obtain ⟨x, hx, hname⟩ := List.mem_map.1 hup
    exact (hnames x hx).2 hname
  · decide +kernel

theorem generate_below_notes :
    let id : Field := { name := "id", kind := .string, isId := true }
    let note : Model := { name := "Note", location := some "notes.prisma", fields := [id] }
    let d : Document := { models := [note] }
    let s : Settings := { output := some "out", multiFileDomains := true }
    ∃ r, (FileTree.empty.Slashless ∧ render d s {} = .ok r) ∧
      (∀ a ∈ r.artifacts, (Path.ofText a.path).Descends) ∧
      Frame (["out"] <+: ·) (· <+: ["out"]) .empty (generate d s .atomic false {}).tree := by
  intro id note d s
  obtain ⟨r, hr⟩ : ∃ r, render d s {} = .ok r := Traversal.exists_ok_of_isOk (by decide +kernel)
  have hnames : ∀ x ∈ (Domain.detect d {} none).2, x.name ≠ "" ∧ x.name ≠ ".." := by decide +kernel
  obtain ⟨hiff, hframe⟩ := generate_below slashless_empty hr
  have hpaths := hiff.2 fun _ => hnames
  exact ⟨r, ⟨slashless_empty, hr⟩, hpaths, hframe hpaths "out" rfl .atomic false⟩

/-! ### Everything is written -/

/-- The report and the tree `t'` of a run that has written `r` below a directory. The manifest lists
the artifacts, each once and in the order in which they were rendered. -/
structure Delivered (r : Rendering) (directory : Location) (clean : Bool) (report : Report)
    (t t' : FileTree) : Prop where
  contents : r.contents = r.artifacts.map fun a => (a.path, a.content)
  paths : (r.artifacts.map Artifact.path).Nodup
  manifest : ∃ files, report.manifest.map Manifest.files = some files ∧
    List.Forall₂ (fun a record => FileRecord.Describes record a.path a.content) r.artifacts files
  exported : Exported directory clean r.contents t t'

/-- A run that reports success has written every artifact, and nothing besides. -/
theorem generate_complete (htree : disk.tree.Slashless)
    (hnames : s.multiFileDomains →
      ∀ x ∈ (Domain.detect d disk s.schemaPath).2, x.name ≠ "" ∧ x.name ≠ "..")
    (houtput : s.output = some output)
    (h : (generate d s mode false disk).outcome = .ok report) (hs : report.success) :
    ∃ r, render d s disk = .ok r ∧
      Delivered r ((Path.ofText output).absolute disk.cwd) s.cleanOutput report disk.tree
        (generate d s mode false disk).tree := by
  rcases generate_cases d mode false disk houtput with
    ⟨-, hdry | ⟨f, hf⟩⟩ | ⟨-, r, start, hr, hdone, hout⟩
  · cases hdry
  · rw [hf] at h
    cases h
  · have hpaths := (render_descends_iff htree hr).2 hnames
    have hcontents := contents_eq hr
    rw [hout] at h
    unfold exportRendering at h hdone
    dsimp only at h hdone
    split at h
    · cases h
    next hend =>
      cases h
      obtain ⟨hrecords, hexported⟩ := Exporter.run_success (Path.dotdot_not_mem_absolute _ _)
        (contents_descend hr hpaths) (nodup_locationsIn htree hr hpaths _)
        (Bool.eq_false_iff.2 hend) hs
      refine ⟨r, hr, hcontents, nodup_paths hr, ⟨_, congrArg some hrecords, ?_⟩, hdone ▸ hexported⟩
      rw [List.nil_append, hcontents, List.map_map, List.forall₂_map_right_iff]
      exact List.forall₂_same.2 fun a _ => Exporter.describes_recordOf a.path a.content

/-- A run beside a file that it does not touch. -/
theorem generate_complete_notes :
    let id : Field := { name := "id", kind := .string, isId := true }
    let note : Model := { name := "Note", location := some "notes.prisma", fields := [id] }
    let d : Document := { models := [note] }
    let s : Settings := { output := some "out", multiFileDomains := true, cleanOutput := true }
    let t := FileTree.empty.put ["readme"] (.file [35]) rfl (by decide)
    let run := generate d s .atomic false { tree := t }
    ∃ report r, (t.Slashless ∧ run.outcome = .ok report ∧ report.success) ∧
      render d s { tree := t } = .ok r ∧ Delivered r ["out"] true report t run.tree := by
  intro id note d s t run
  have htree : t.Slashless := slashless_empty.put (by decide) (by decide)
  have hnames : ∀ x ∈ (Domain.detect d { tree := t } none).2, x.name ≠ "" ∧ x.name ≠ ".." := by
    decide +kernel
  have hsuccess : run.outcome.toOption.any Report.success := by decide +kernel
  obtain ⟨report, hreport, hs⟩ := (Option.any_eq_true _ _).1 hsuccess
  have hrun : run.outcome = .ok report := by
    cases h : run.outcome with
    | error f =>
      rw [h] at hreport
      cases hreport
    | ok _ =>
      rw [h] at hreport
      cases hreport
      rfl
  obtain ⟨r, hr, hdelivered⟩ := generate_complete htree (fun _ => hnames) rfl hrun hs
  exact ⟨report, r, ⟨htree, hrun, hs⟩, hr, hdelivered⟩

end SchemaTypes
