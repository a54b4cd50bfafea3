import SchemaTypes.Proofs.Bookkeeping
import SchemaTypes.Proofs.Generation

/-!
# What a dry run foretells

A dry run takes its totals from the rendering, and a run takes them from the manifest of its export. No
two artifacts of a rendering have one path (`nodup_paths`), so that nothing gets lost between
the two, and an export without errors has a record of every artifact (`Exporter.records_of_success`). So
a run that succeeds reports what the dry run has said before (`generate_dry`).
-/

namespace SchemaTypes

variable {d : Document} {s : Settings} {mode : WriteMode} {disk : Disk} {r : Rendering} {report : Report}

/-! ### The records of an export without errors -/

namespace Exporter
variable {x : Exporter} {t : FileTree} {contents : Drafts}

theorem map_record_attemptsOn : (x.attemptsOn t contents).map Attempt.record =
    contents.map fun e => recordOf e.1 e.2 := by
  unfold attemptsOn
  induction contents generalizing t with
  | nil => rfl
  | cons e rest ih =>
    rw [writeFaults, List.zipWith_cons_cons, List.map_cons, List.map_cons, ih]
    rfl

theorem records_of_success (hend : (x.run t contents).aborted = false)
    (hs : (x.run t contents).exporter.success) :
    (x.run t contents).exporter.records = x.records ++ contents.map fun e => recordOf e.1 e.2 := by
  obtain ⟨-, hdirectory, hfaults⟩ := (success_run_iff_faultless hend).1 hs
  have hattempts : x.attempts t contents = x.attemptsOn (x.start t) contents := if_pos hdirectory
  have hall : written (x.attempts t contents) = x.attempts t contents :=
    List.filter_eq_self.2 fun a ha => Option.isNone_iff_eq_none.2 (hfaults a ha)
  rw [records_run hend, hall, hattempts, map_record_attemptsOn]

end Exporter

/-! ### The two reports -/

/-- What a dry run has to say of a run. -/
structure Report.Foretells (dry report : Report) : Prop where
  success : dry.success = report.success
  outputDirectory : dry.outputDirectory = report.outputDirectory
  files : dry.files = report.files
  lines : dry.lines = report.lines
  models : dry.models = report.models
  enums : dry.enums = report.enums
  joinTables : dry.joinTables = report.joinTables
  domains : dry.domains = report.domains

theorem cast_lineCount (r : Rendering) :
    (r.lineCount : Int) = (r.artifacts.map fun a => (a.lineCount : Int)).foldr (· + ·) 0 := by
  rw [Rendering.lineCount, List.foldr_map, List.foldr_map]
  exact (List.foldr_hom Nat.cast fun _ _ => (Int.natCast_add _ _).symm).symm

/-- If a run succeeds, the dry run does so too, and says what the run then reports. -/
theorem generate_dry (h : (generate d s mode false disk).outcome = .ok report) (hs : report.success) :
    ∃ dry, (generate d s mode true disk).outcome = .ok dry ∧ dry.Foretells report := by
  obtain ⟨output, ss, r, houtput, hnul, hss, hr⟩ := exists_sites_of_report h
  refine ⟨_, congrArg Run.outcome (generate_of_sites houtput mode true hnul hss hr), ?_⟩
  rw [generate_of_sites houtput mode false hnul hss hr] at h
  have hr : render d s disk = .ok r := Traversal.bind_eq_ok_iff.2 ⟨ss, hss, hr⟩
  obtain ⟨hend, rfl⟩ := exportRendering_eq_ok h
  have hrecords := Exporter.records_of_success hend hs
  generalize (Exporter.run _ disk.tree r.contents.drafts).exporter = y at hs hrecords ⊢
  rw [List.nil_append, Contents.drafts, contents_eq hr, List.map_map, List.map_map] at hrecords
  refine ⟨hs.symm, rfl, ?_, ?_, rfl, rfl, rfl, rfl⟩
  · show (r.artifacts.length : Int) = (y.records.length : Nat)
    rw [hrecords, List.length_map]
  · show (r.lineCount : Int) = (y.records.map FileRecord.lines).foldr (· + ·) 0
    rw [hrecords, List.map_map, cast_lineCount]
    simp only [Artifact.lineCount_eq]
    rfl

/-- The two runs of a schema with one model, in a tree in which an earlier run has left a file. -/
theorem generate_dry_notes :
    let id : Field := { name := "id", kind := .string, isId := true }
    let note : Model := { name := "Note", location := some "notes.prisma", fields := [id] }
    let d : Document := { models := [note] }
    let s : Settings := { output := some "out", multiFileDomains := true, cleanOutput := true }
    let t := (FileTree.empty.put ["out"] .directory rfl (by simp)).put ["out", "old.ts"] (.file [35]) rfl
      (by decide)
    ∃ report dry, ((generate d s .atomic false { tree := t }).outcome = .ok report ∧ report.success) ∧
      (generate d s .atomic true { tree := t }).outcome = .ok dry ∧ dry.Foretells report ∧
      dry.files = 3 := by
  intro id note d s t
  have hsuccess : (generate d s .atomic false { tree := t }).outcome.toOption.any Report.success := by
    decide +kernel
  have hfiles : (generate d s .atomic true { tree := t }).outcome.toOption.map Report.files = some 3 := by
    decide +kernel
  cases hrun : (generate d s .atomic false { tree := t }).outcome with
  | error f =>
    rw [hrun] at hsuccess
    cases hsuccess
  | ok report =>
    rw [hrun] at hsuccess
    obtain ⟨dry, hdry, hforetells⟩ := generate_dry hrun hsuccess
    rw [hdry] at hfiles
    exact ⟨report, dry, ⟨rfl, hsuccess⟩, hdry, hforetells, Option.some.inj hfiles⟩

end SchemaTypes
