import SchemaTypes.Proofs.Faults
import SchemaTypes.Proofs.File.Directories

/-!
# What an exporter notes

An export makes one attempt at each of its artifacts, and notes a record of it or an error
(`exporter_run`); if the output directory cannot be made, it makes no attempt and notes one error. So
over several exports the manifest lists what was written in each of them, in order, and success is
lost with the first error (`books_after`).
-/

namespace SchemaTypes

/-- The artifact that could not be written. -/
def ExportError.artifact? : ExportError → Option String
  | noDirectory .. => none
  | notWritten artifact .. => some artifact

namespace Exporter
open FileTree

/-- An artifact, and the fault that its write met. -/
structure Attempt where
  artifact : String
  content : Content
  fault : Option FileFault
deriving Repr, DecidableEq

/-- What the manifest says of the artifact. -/
def Attempt.record (a : Attempt) : FileRecord := recordOf a.artifact a.content

/-- The artifacts with their faults, each written on the tree that the one before left. -/
def attemptsOn (x : Exporter) (t : FileTree) (contents : Drafts) : List Attempt :=
  List.zipWith (fun e fault => ⟨e.1, e.2, fault⟩) contents (writeFaults x.limit x.mode x.path t contents)

/-- The attempts of an export: none if the output directory cannot be made. -/
def attempts (x : Exporter) (t : FileTree) (contents : Drafts) : List Attempt :=
  if x.directoryFault t = none then x.attemptsOn (x.start t) contents else []

/-- The attempts that have written their artifact. -/
def written (attempts : List Attempt) : List Attempt := attempts.filter fun a => a.fault.isNone

/-- The errors of the attempts that have not. -/
def errorsOf (x : Exporter) (attempts : List Attempt) : List ExportError :=
  attempts.filterMap fun a => a.fault.map fun fault =>
    .notWritten a.artifact fault (x.path.join (Path.ofText a.artifact)).text

/-- No file stands at the output directory or above it, and no name there is missing and too long. -/
def Usable (x : Exporter) (t : FileTree) : Prop :=
  (∀ k, k <+: x.directory → ¬ t.isFile k) ∧ t.Fits x.limit x.directory

variable {x : Exporter} {t : FileTree} {contents : Drafts} {artifact : String} {content : Content}

/-! ### One export -/

theorem length_writeFaults (limit : NameLimit) (mode : WriteMode) (directory : Path) (t : FileTree)
    (contents : Drafts) : (writeFaults limit mode directory t contents).length = contents.length := by
  induction contents generalizing t with
  | nil => rfl
  | cons e rest ih => rw [writeFaults, List.length_cons, ih, List.length_cons]

theorem length_attemptsOn : (x.attemptsOn t contents).length = contents.length := by
  rw [attemptsOn, List.length_zipWith, length_writeFaults, Nat.min_self]

/-- Every attempt is noted once. -/
theorem length_written_add_errorsOf (x : Exporter) (attempts : List Attempt) :
    (written attempts).length + (x.errorsOf attempts).length = attempts.length := by
  induction attempts with
  | nil => rfl
  | cons a rest ih =>
    unfold written errorsOf at ih ⊢
    cases hfault : a.fault with
    | none =>
      rw [List.filter_cons_of_pos (by simp [hfault]), List.filterMap_cons_none (by simp [hfault])]
      simp only [List.length_cons]
      omega
    | some fault =>
      rw [List.filter_cons_of_neg (by simp [hfault]), List.filterMap_cons_some (by simp [hfault]; rfl)]
      simp only [List.length_cons]
      omega

theorem errorsOf_eq_nil_iff {attempts : List Attempt} :
    x.errorsOf attempts = [] ↔ ∀ a ∈ attempts, a.fault = none := by
  simp [errorsOf, List.filterMap_eq_nil_iff]

theorem attemptsOn_cons (x : Exporter) (t : FileTree) (e : String × Content) (rest : Drafts) :
    x.attemptsOn t (e :: rest) =
      ⟨e.1, e.2, ((Disk.mk t []).write x.limit x.mode (x.path.join (Path.ofText e.1)) e.2).2⟩ ::
        (x.write t e.1 e.2).exporter.attemptsOn (x.write t e.1 e.2).tree rest := by
  have hset : (x.write t e.1 e.2).exporter.SetUpAs x := setUpAs_write
  unfold attemptsOn
  rw [hset.limit, hset.mode, hset.path, tree_write]
  rfl

theorem exporter_write (hend : (x.write t artifact content).aborted = false) :
    let attempt : Attempt := ⟨artifact, content,
      ((Disk.mk t []).write x.limit x.mode (x.path.join (Path.ofText artifact)) content).2⟩
    (x.write t artifact content).exporter =
      { x with records := x.records ++ (written [attempt]).map Attempt.record,
               errors := x.errors ++ x.errorsOf [attempt] } := by
  unfold write at hend ⊢
  dsimp only at hend ⊢
  split at hend
  next h => simp [h, written, errorsOf, Attempt.record]
  next h =>
    rw [aborted_refuse] at hend
    simp [h, written, errorsOf, refuse_of_not_escapes hend, addError]

theorem written_cons (a : Attempt) (as : List Attempt) : written (a :: as) = written [a] ++ written as :=
  List.filter_append [a] as

theorem errorsOf_cons (x : Exporter) (a : Attempt) (as : List Attempt) :
    x.errorsOf (a :: as) = x.errorsOf [a] ++ x.errorsOf as :=
  List.filterMap_append (l := [a])

/-- Artifacts that are written one after the other are noted in this order. -/
theorem exporter_writeAll (hend : (x.writeAll t contents).aborted = false) :
    (x.writeAll t contents).exporter =
      { x with records := x.records ++ (written (x.attemptsOn t contents)).map Attempt.record,
               errors := x.errors ++ x.errorsOf (x.attemptsOn t contents) } := by
  induction contents generalizing x t with
  | nil => simp [writeAll, attemptsOn, written, errorsOf]
  | cons e rest ih =>
    cases hfirst : (x.write t e.1 e.2).aborted with
    | true =>
      rw [writeAll_aborted hfirst, hfirst] at hend
      cases hend
    | false =>
      obtain ⟨hexporter, -, haborted⟩ := writeAll_cons rest hfirst
      rw [haborted] at hend
      have herrors (as : List Attempt) : (x.write t e.1 e.2).exporter.errorsOf as = x.errorsOf as := by
        rw [errorsOf, errorsOf, setUpAs_write.path]
      rw [hexporter, ih hend, herrors, attemptsOn_cons]
      generalize (x.write t e.1 e.2).exporter.attemptsOn (x.write t e.1 e.2).tree rest = others
      rw [exporter_write hfirst]
      dsimp only
      rw [List.append_assoc, List.append_assoc, ← List.map_append, ← written_cons, ← errorsOf_cons]

/-- What an export notes: its attempts, or that there is no directory to write to. -/
theorem exporter_run (hend : (x.run t contents).aborted = false) :
    (x.run t contents).exporter =
      { x with
        records := x.records ++ (written (x.attempts t contents)).map Attempt.record,
        errors := x.errors ++ match ((x.cleaned t).makeDirectories x.limit x.directory).2 with
          | none => x.errorsOf (x.attempts t contents)
          | some (fault, names) => [.noDirectory x.path.text fault (Path.mk .slash names).text] } := by
  obtain ⟨hexporter, -, haborted⟩ := run_of_lookup contents (lookup_of_run hend)
  rw [haborted] at hend
  rw [hexporter]
  unfold fill at hend ⊢
  unfold attempts directoryFault start
  split at hend
  next t' h =>
    rw [h]
    exact exporter_writeAll hend
  next t' fault names h =>
    rw [aborted_refuse] at hend
    rw [h]
    simp [written, refuse_of_not_escapes hend, addError]

/-! ### The output directory -/

/-- The directory can be made just if no file is in the way, and no name too long. -/
theorem directoryFault_eq_none_iff (hdots : ".." ∉ x.directory) (hnul : ¬ HoldsNul x.directory) :
    x.directoryFault t = none ↔ x.Usable t := by
  have hsame {k : Location} (hk : k <+: x.directory) : (x.cleaned t).get? k = t.get? k :=
    get?_cleaned_of_not_stale (not_stale_above hk)
  rw [directoryFault, Option.map_eq_none_iff, makeDirectories_eq_none_iff (.of_plain hdots) hnul]
  refine and_congr (forall₂_congr fun k hk => ?_) (forall₃_congr fun k n hk => ?_)
  · rw [isFile, isFile, hsame hk]
  · rw [hsame hk]

/-- What keeps an export from breaking off: no path holds the character NUL, every content has bytes, and
a directory that is cleaned has no name that is too long. -/
structure Sound (x : Exporter) (contents : Drafts) : Prop where
  directory : ¬ HoldsNul x.directory
  lookup : x.clean → ∀ n ∈ x.directory, x.limit.allows n
  paths : ∀ e ∈ contents, '\x00' ∉ e.1.toList
  contents : ∀ e ∈ contents, e.2.Encodable

theorem aborted_run_of_sound (h : x.Sound contents) : (x.run t contents).aborted = false := by
  refine Bool.eq_false_iff.2 (mt (aborted_run_iff (lookupFault_eq_none h.lookup)).1 ?_)
  rintro (hfault | ⟨-, hescapes⟩)
  · exact h.directory (directoryFault_escapes_iff.1 hfault)
  · obtain ⟨e, he, hnul | hcontent⟩ := escapes_of_writeFaults hescapes
    · have hnames : ¬ HoldsNul (Path.ofText e.1).names := mt Path.holdsNul_ofText.1 (h.paths e he)
      unfold Path.join at hnul
      split at hnul
      · exact (holdsNul_append.1 hnul).elim h.directory hnames
      · exact hnames hnul
    · exact hcontent (h.contents e he)

/-! ### One export after the other -/

/-- The exporter and the tree after some exports. -/
def after (x : Exporter) (t : FileTree) : List Drafts → Exporter × FileTree
  | [] => (x, t)
  | contents :: later => (x.run t contents).exporter.after (x.run t contents).tree later

/-- The exports, each with the tree that it found. -/
def calls (x : Exporter) (t : FileTree) : List Drafts → List (FileTree × Drafts)
  | [] => []
  | contents :: later =>
    (t, contents) :: (x.run t contents).exporter.calls (x.run t contents).tree later

/-- What was written in several exports, in their order. -/
def writtenIn (x : Exporter) (calls : List (FileTree × Drafts)) : List Attempt :=
  calls.flatMap fun c => written (x.attempts c.1 c.2)

variable {y : Exporter} {requests : List Drafts}

namespace SetUpAs

theorem directoryFault (h : y.SetUpAs x) : y.directoryFault t = x.directoryFault t := by
  unfold Exporter.directoryFault cleaned
  rw [h.directory, h.clean, h.limit]

theorem attempts (h : y.SetUpAs x) : y.attempts t contents = x.attempts t contents := by
  unfold Exporter.attempts attemptsOn start cleaned Exporter.path
  rw [h.directoryFault, h.directory, h.clean, h.mode, h.limit]

theorem writtenIn (h : y.SetUpAs x) (calls : List (FileTree × Drafts)) :
    y.writtenIn calls = x.writtenIn calls :=
  List.flatMap_congr fun _ _ => congrArg written h.attempts

theorem sound (h : y.SetUpAs x) (hsound : x.Sound contents) : y.Sound contents where
  directory := by rw [h.directory]; exact hsound.directory
  lookup := by rw [h.directory, h.clean, h.limit]; exact hsound.lookup
  paths := hsound.paths
  contents := hsound.contents

end SetUpAs

/-- The export could make its directory, and wrote every artifact. -/
def Faultless (x : Exporter) (call : FileTree × Drafts) : Prop :=
  x.directoryFault call.1 = none ∧ ∀ a ∈ x.attempts call.1 call.2, a.fault = none

theorem SetUpAs.faultless_iff (h : y.SetUpAs x) {call : FileTree × Drafts} :
    y.Faultless call ↔ x.Faultless call := by
  rw [Faultless, Faultless, h.directoryFault, h.attempts]

section Run
variable (hend : (x.run t contents).aborted = false)
include hend

theorem setUpAs_run : (x.run t contents).exporter.SetUpAs x := by
  rw [exporter_run hend]
  exact ⟨rfl, rfl, rfl, rfl⟩

theorem records_run : (x.run t contents).exporter.records =
    x.records ++ (written (x.attempts t contents)).map Attempt.record := by
  rw [exporter_run hend]

theorem length_errors_run : (x.run t contents).exporter.errors.length = x.errors.length +
    if x.directoryFault t = none then (x.errorsOf (x.attempts t contents)).length else 1 := by
  rw [exporter_run hend, List.length_append]
  congr 1
  unfold directoryFault
  cases ((x.cleaned t).makeDirectories x.limit x.directory).2 <;> rfl

theorem success_run_iff_faultless :
    (x.run t contents).exporter.success ↔ x.success ∧ x.Faultless (t, contents) := by
  have hlength := length_errors_run hend
  have hsuccess (y : Exporter) : y.success ↔ y.errors.length = 0 := by
    rw [success, List.isEmpty_iff, List.length_eq_zero_iff]
  rw [hsuccess, hsuccess, hlength, Nat.add_eq_zero_iff, Faultless, ← errorsOf_eq_nil_iff (x := x)]
  refine and_congr_right fun _ => ?_
  split
  next h => rw [List.length_eq_zero_iff, and_iff_right h]
  next h => simp [h]

/-- With a directory to write to, every artifact is a new record or a new error. -/
theorem length_run_of_made (hmade : x.directoryFault t = none) :
    (x.run t contents).exporter.records.length + (x.run t contents).exporter.errors.length =
      x.records.length + x.errors.length + contents.length := by
  have hattempts : x.attempts t contents = x.attemptsOn (x.start t) contents := if_pos hmade
  have hcount := length_written_add_errorsOf x (x.attempts t contents)
  rw [records_run hend, length_errors_run hend, if_pos hmade, List.length_append, List.length_map]
  rw [hattempts, length_attemptsOn] at hcount
  rw [hattempts]
  omega

/-- Without one, no artifact is tried, and that is an error. -/
theorem run_of_not_made (hmade : x.directoryFault t ≠ none) :
    (x.run t contents).exporter.records = x.records ∧
      (x.run t contents).exporter.errors.length = x.errors.length + 1 := by
  have hattempts : x.attempts t contents = [] := if_neg hmade
  rw [records_run hend, length_errors_run hend, if_neg hmade, hattempts]
  exact ⟨List.append_nil _, rfl⟩

end Run

/-- What is noted grows by what each export notes; the settings stay. -/
theorem books_after (hsound : ∀ contents ∈ requests, x.Sound contents) : (x.after t requests).1.SetUpAs x ∧
    (x.after t requests).1.records =
      x.records ++ (x.writtenIn (x.calls t requests)).map Attempt.record ∧
    ((x.after t requests).1.success ↔ x.success ∧ ∀ call ∈ x.calls t requests, x.Faultless call) := by
  induction requests generalizing x t with
  | nil => exact ⟨.refl, (List.append_nil _).symm, by simp [after, calls]⟩
  | cons contents later ih =>
    obtain ⟨hfirst, hlater⟩ := List.forall_mem_cons.1 hsound
    have hend := aborted_run_of_sound (t := t) hfirst
    have hset := setUpAs_run hend
    obtain ⟨hsettings, hrecords, hsuccess⟩ := ih (x := (x.run t contents).exporter)
      (t := (x.run t contents).tree) fun contents h => hset.sound (hlater contents h)
    refine ⟨hsettings.trans hset, ?_, ?_⟩
    · rw [after, hrecords, records_run hend, calls, hset.writtenIn, List.append_assoc, ← List.map_append]
      rfl
    · rw [after, hsuccess, success_run_iff_faultless hend, calls, List.forall_mem_cons, and_assoc]
      simp only [hset.faultless_iff]

theorem mem_calls {call : FileTree × Drafts} (h : call ∈ x.calls t requests) : call.2 ∈ requests := by
  induction requests generalizing x t with
  | nil => exact absurd h List.not_mem_nil
  | cons contents later ih =>
    rcases List.mem_cons.1 h with rfl | h
    · exact List.mem_cons_self
    · exact List.mem_cons_of_mem contents (ih h)

theorem encodable_of_mem_writtenIn {a : Attempt} {calls : List (FileTree × Drafts)}
    (hcontents : ∀ call ∈ calls, ∀ e ∈ call.2, e.2.Encodable) (ha : a ∈ x.writtenIn calls) :
    a.content.Encodable := by
  obtain ⟨call, hcall, ha⟩ := List.mem_flatMap.1 ha
  have ha : a ∈ x.attempts call.1 call.2 := List.mem_of_mem_filter ha
  unfold attempts at ha
  split at ha
  · obtain ⟨i, hi, hget⟩ := List.mem_iff_getElem.1 ha
    rw [← hget]
    simp only [attemptsOn, List.getElem_zipWith]
    exact hcontents call hcall _ (List.getElem_mem _)
  · exact absurd ha List.not_mem_nil

theorem Attempt.describes_record {a : Attempt} (h : a.content.Encodable) :
    ∃ s, a.content = .text s ∧ FileRecord.Describes a.record a.artifact s := by
  obtain ⟨s, hs⟩ := Content.encodable_iff.1 h
  refine ⟨s, hs, ?_⟩
  rw [record, hs]
  exact describes_recordOf a.artifact s

/-- The books of `y` after some exports, the last of which was given `last`, and found the tree `found`
and the books of `before`. -/
structure Kept (x : Exporter) (calls : List (FileTree × Drafts)) (found : FileTree) (last : Drafts)
    (before y : Exporter) : Prop where
  /-- The manifest lists the artifacts that were written, by all exports and in their order. -/
  files : List.Forall₂ (fun a r => ∃ s, a.content = .text s ∧ FileRecord.Describes r a.artifact s)
    (x.writtenIn calls) y.manifest.files
  fileCount : y.manifest.fileCount = (x.writtenIn calls).length
  byteCount : y.manifest.byteCount = (y.manifest.files.map FileRecord.size).foldr (· + ·) 0
  lineCount : y.manifest.lineCount = (y.manifest.files.map FileRecord.lines).foldr (· + ·) 0
  /-- With a directory to write to, every artifact is a new record or a new error. -/
  usable : x.Usable found →
    y.records.length + y.errors.length = before.records.length + before.errors.length + last.length
  unusable : ¬ x.Usable found →
    y.records = before.records ∧ y.errors.length = before.errors.length + 1
  /-- There was no error just if every directory was usable and every artifact was written. -/
  success : y.success ↔ ∀ call ∈ calls, x.Usable call.1 ∧ ∀ a ∈ x.attempts call.1 call.2, a.fault = none

theorem after_append (x : Exporter) (t : FileTree) (requests later : List Drafts) :
    x.after t (requests ++ later) = (x.after t requests).1.after (x.after t requests).2 later := by
  induction requests generalizing x t with
  | nil => rfl
  | cons contents requests ih => exact ih _ _

theorem after_concat (x : Exporter) (t : FileTree) (requests : List Drafts) (last : Drafts) :
    (x.after t (requests ++ [last])).1 = ((x.after t requests).1.run (x.after t requests).2 last).exporter := by
  rw [after_append]
  rfl

/-- After each of several exports of a new exporter, its books are as they have to be. -/
theorem kept_after (output : Path) (cwd : List String) (clean : Bool) (mode : WriteMode) (limit : NameLimit)
    (t : FileTree) (requests : List Drafts) (last : Drafts) (hdirectory : ¬ HoldsNul (output.absolute cwd))
    (hlookup : clean → ∀ n ∈ output.absolute cwd, limit.allows n)
    (hpaths : ∀ contents ∈ requests ++ [last], ∀ e ∈ contents, '\x00' ∉ e.1.toList)
    (hcontents : ∀ contents ∈ requests ++ [last], ∀ e ∈ contents, e.2.Encodable) :
    let x : Exporter := { directory := output.absolute cwd, clean, mode, limit }
    x.Kept (x.calls t (requests ++ [last])) (x.after t requests).2 last (x.after t requests).1
      (x.after t (requests ++ [last])).1 := by
  intro x
  have husable (t : FileTree) : x.directoryFault t = none ↔ x.Usable t :=
    directoryFault_eq_none_iff (Path.dotdot_not_mem_absolute cwd output) hdirectory
  have hsound : ∀ contents ∈ requests ++ [last], x.Sound contents := fun contents h =>
    ⟨hdirectory, hlookup, hpaths contents h, hcontents contents h⟩
  obtain ⟨hearlier, hlast⟩ := List.forall_mem_append.1 hsound
  obtain ⟨-, hrecords, hsuccess⟩ := books_after (t := t) hsound
  have hfiles : (x.after t (requests ++ [last])).1.manifest.files =
      (x.writtenIn (x.calls t (requests ++ [last]))).map Attempt.record := by
    rw [manifest, hrecords]
    rfl
  -- the last export, by the exporter that the ones before it left
  obtain ⟨hsame, -, -⟩ := books_after (t := t) hearlier
  have hend : ((x.after t requests).1.run (x.after t requests).2 last).aborted = false :=
    aborted_run_of_sound (hsame.sound (hlast _ (List.mem_singleton_self _)))
  have hafter := after_concat x t requests last
  generalize (x.after t requests).1 = before at hsame hend hafter ⊢
  generalize (x.after t requests).2 = found at hend hafter ⊢
  have hmade : before.directoryFault found = none ↔ x.Usable found := by
    rw [hsame.directoryFault, husable]
  refine ⟨?_, ?_, rfl, rfl, fun h => ?_, fun h => ?_, ?_⟩
  · rw [hfiles, List.forall₂_map_right_iff]
    refine List.forall₂_same.2 fun a ha => ?_
    exact Attempt.describes_record (encodable_of_mem_writtenIn (fun call hcall => hcontents _ (mem_calls hcall)) ha)
  · rw [Manifest.fileCount, hfiles, List.length_map]
  · rw [hafter]
    exact length_run_of_made hend (hmade.2 h)
  · rw [hafter]
    exact run_of_not_made hend (mt hmade.1 h)
  · rw [hsuccess, and_iff_right (show x.success from rfl)]
    exact forall₂_congr fun call _ => and_congr_left fun _ => husable call.1

/-- The first artifact of the first export stands in the way of the second, a directory in the way of the
second export, and the temporary file of its last artifact has too long a name. -/
theorem kept_after_blocked :
    let x : Exporter := { directory := ["out"], limit := some 20 }
    let t := (FileTree.empty.put ["out"] .directory rfl (by simp)).put ["out", "b"] .directory rfl (by simp)
    let requests : List Drafts := [[("a", "x"), ("a/c", "y")]]
    let last : Drafts := [("b", "z"), ("billing", "z")]
    let y := (x.after t (requests ++ [last])).1
    (¬ HoldsNul x.directory ∧ (∀ contents ∈ requests ++ [last], ∀ e ∈ contents, '\x00' ∉ e.1.toList) ∧
        ∀ contents ∈ requests ++ [last], ∀ e ∈ contents, e.2.Encodable) ∧
      x.Kept (x.calls t (requests ++ [last])) (x.after t requests).2 last (x.after t requests).1 y ∧
      y.manifest.files.map FileRecord.path = ["a"] ∧
      y.errors.map ExportError.artifact? = [some "a/c", some "b", some "billing"] := by
  intro x t requests last y
  have hdirectory : ¬ HoldsNul x.directory := by simp [HoldsNul, x]
  have hpaths : ∀ contents ∈ requests ++ [last], ∀ e ∈ contents, '\x00' ∉ e.1.toList := by decide +kernel
  have hcontents : ∀ contents ∈ requests ++ [last], ∀ e ∈ contents, e.2.Encodable := by decide +kernel
  exact ⟨⟨hdirectory, hpaths, hcontents⟩, kept_after ⟨.none, ["out"]⟩ [] false .atomic (some 20) t requests
    last hdirectory (by simp) hpaths hcontents, by decide +kernel, by decide +kernel⟩

/-- Over a name of the directory that is too long, and over a content without bytes, an export breaks off
with neither a record nor an error. -/
theorem not_kept :
    let long : Exporter := { directory := ["generated-typescript"], clean := true, limit := some 14 }
    let x : Exporter := { directory := ["out"] }
    let lone : Drafts := [("a.ts", .surrogate "" 0 "")]
    (long.run .empty [("a.ts", "")]).fault = some .nameTooLong ∧
      ¬ long.Kept [(.empty, [("a.ts", "")])] .empty [("a.ts", "")] long
        (long.run .empty [("a.ts", "")]).exporter ∧
      (x.run .empty lone).fault = some .unencodable ∧
      ¬ x.Kept [(.empty, lone)] .empty lone x (x.run .empty lone).exporter := by
  intro long x lone
  have hlong : (long.run .empty [("a.ts", "")]).fault = some .nameTooLong := by decide +kernel
  have hlone : (x.run .empty lone).fault = some .unencodable := by decide +kernel
  have hempty : (long.run .empty [("a.ts", "")]).exporter.errors = [] := by decide +kernel
  have hnone : (x.run .empty lone).exporter.records = [] ∧ (x.run .empty lone).exporter.errors = [] := by
    decide +kernel
  refine ⟨hlong, fun hkept => ?_, hlone, fun hkept => ?_⟩
  · have hfree : ¬ long.Usable .empty := fun husable => by
      have hfits := husable.2 [] _ List.prefix_rfl rfl
      revert hfits
      decide +kernel
    have herrors := (hkept.unusable hfree).2
    rw [hempty] at herrors
    cases herrors
  · have hfree : x.Usable .empty := by
      rw [← directoryFault_eq_none_iff (by decide) (by simp [HoldsNul, x])]
      decide +kernel
    have hlength := hkept.usable hfree
    rw [hnone.1, hnone.2] at hlength
    cases hlength

end Exporter

end SchemaTypes
