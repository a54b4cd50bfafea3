import SchemaTypes.Proofs.Export
import SchemaTypes.Proofs.File.Refusal
import SchemaTypes.Proofs.Rendering.Places

/-!
# Which faults an export meets

An export writes its artifacts one after the other, and each write has a fault or none (`faults`). The
first that escapes ends the export (`aborted_run_iff`): one over the character NUL in a path, or over a
content that has no bytes. If there is no such fault, the export goes through to its end, and it has an
error just if the directory could not be made or one of the writes has a fault (`success_run_iff`). The
artifacts of a rendering are refused over NUL just if the name of a domain holds it
(`escapes_rendering_iff`).
-/

namespace SchemaTypes.Exporter
open FileTree

/-- The faults of the writes, each on the tree that the one before left. -/
def writeFaults (limit : NameLimit) (mode : WriteMode) (directory : Path) (t : FileTree) :
    Drafts → List (Option FileFault)
  | [] => []
  | (artifact, content) :: rest =>
    let done := (Disk.mk t []).write limit mode (directory.join (Path.ofText artifact)) content
    done.2 :: writeFaults limit mode directory done.1 rest

/-- The tree in which the artifacts are written: cleaned, and with the output directory if it can be
made. -/
def start (x : Exporter) (t : FileTree) : FileTree :=
  ((x.cleaned t).makeDirectories x.limit x.directory).1

/-- Why the output directory cannot be made. -/
def directoryFault (x : Exporter) (t : FileTree) : Option FileFault :=
  ((x.cleaned t).makeDirectories x.limit x.directory).2.map Prod.fst

/-- The faults of the artifacts in the output directory. -/
def faults (x : Exporter) (t : FileTree) (contents : Drafts) : List (Option FileFault) :=
  writeFaults x.limit x.mode x.path (x.start t) contents

variable {x : Exporter} {t : FileTree} {contents : Drafts} {artifact : String} {content : Content}

/-! ### Writing -/

/-- The exporters are set up alike, whatever they have noted. -/
structure SetUpAs (y x : Exporter) : Prop where
  directory : y.directory = x.directory
  clean : y.clean = x.clean
  mode : y.mode = x.mode
  limit : y.limit = x.limit

namespace SetUpAs
variable {y z : Exporter}

theorem refl : x.SetUpAs x := ⟨rfl, rfl, rfl, rfl⟩

theorem trans (h : z.SetUpAs y) (h' : y.SetUpAs x) : z.SetUpAs x :=
  ⟨h.directory.trans h'.directory, h.clean.trans h'.clean, h.mode.trans h'.mode, h.limit.trans h'.limit⟩

theorem path (h : y.SetUpAs x) : y.path = x.path := congrArg (Path.mk .slash) h.directory

end SetUpAs

theorem setUpAs_refuse {fault : FileFault} {e : ExportError} :
    (x.refuse t fault e).exporter.SetUpAs x := by
  unfold refuse
  split <;> exact ⟨rfl, rfl, rfl, rfl⟩

theorem setUpAs_write : (x.write t artifact content).exporter.SetUpAs x := by
  unfold write
  dsimp only
  split
  · exact ⟨rfl, rfl, rfl, rfl⟩
  · exact setUpAs_refuse

theorem tree_write : (x.write t artifact content).tree =
    ((Disk.mk t []).write x.limit x.mode (x.path.join (Path.ofText artifact)) content).1 := by
  unfold write
  dsimp only
  split
  next h => rw [h]
  next h => rw [h, tree_refuse]

theorem aborted_write_iff : (x.write t artifact content).aborted ↔
    ((Disk.mk t []).write x.limit x.mode (x.path.join (Path.ofText artifact)) content).2.any
      FileFault.escapes := by
  unfold write
  dsimp only
  split
  next h => simp [h, Export.aborted]
  next h => simp [h, aborted_refuse]

theorem success_write_iff (hend : (x.write t artifact content).aborted = false) :
    (x.write t artifact content).exporter.success ↔ x.success ∧
      ((Disk.mk t []).write x.limit x.mode (x.path.join (Path.ofText artifact)) content).2 = none := by
  unfold write at hend ⊢
  dsimp only at hend ⊢
  split at hend
  next h => simp [h, success]
  next h => simp [h, not_success_of_refuse hend]

/-- Artifacts are written up to the first fault that escapes. If there is none, errors stay away just if
all faults do. -/
theorem writeAll_contract (x : Exporter) (t : FileTree) (contents : Drafts) :
    ((x.writeAll t contents).aborted ↔
      ∃ f ∈ writeFaults x.limit x.mode x.path t contents, f.any FileFault.escapes) ∧
    ((x.writeAll t contents).aborted = false → ((x.writeAll t contents).exporter.success ↔
      x.success ∧ ∀ f ∈ writeFaults x.limit x.mode x.path t contents, f = none)) := by
  induction contents generalizing x t with
  | nil => simp [writeAll, writeFaults, Export.aborted]
  | cons e rest ih =>
    obtain ⟨artifact, content⟩ := e
    have ih := ih (x.write t artifact content).exporter (x.write t artifact content).tree
    have hset : (x.write t artifact content).exporter.SetUpAs x := setUpAs_write
    rw [hset.limit, hset.mode, hset.path, tree_write] at ih
    rw [writeFaults]
    cases hend : (x.write t artifact content).aborted with
    | true =>
      rw [writeAll_aborted hend]
      exact ⟨iff_of_true hend ⟨_, List.mem_cons_self, aborted_write_iff.1 hend⟩,
        fun h => absurd h (by simp [hend])⟩
    | false =>
      have hfirst := mt aborted_write_iff.2 (ne_true_of_eq_false hend)
      obtain ⟨hexporter, -, haborted⟩ := writeAll_cons rest hend
      rw [hexporter, haborted, tree_write, List.exists_mem_cons_iff, or_iff_right hfirst, List.forall_mem_cons]
      refine ⟨ih.1, fun h => (ih.2 h).trans ?_⟩
      rw [success_write_iff hend, and_assoc]

/-! ### The whole run -/

/-- Where all its names are taken, the directory is found or not. -/
theorem lookupFault_eq_none (h : x.clean → ∀ n ∈ x.directory, x.limit.allows n) : x.lookupFault t = none := by
  unfold lookupFault
  split
  next hwalk =>
    split
    next hclean => exact absurd hwalk (walk_ne_nameTooLong (h hclean))
    · rfl
  · rfl

theorem aborted_run_iff (hlookup : x.lookupFault t = none) : (x.run t contents).aborted ↔
    (x.directoryFault t).any FileFault.escapes ∨
      x.directoryFault t = none ∧ ∃ f ∈ x.faults t contents, f.any FileFault.escapes := by
  rw [(run_of_lookup _ hlookup).2.2]
  unfold fill directoryFault faults start
  split
  next t' h => simp only [h, (writeAll_contract x t' contents).1]; simp
  next t' fault names h => simp [h, aborted_refuse]

theorem success_run_iff (hend : (x.run t contents).aborted = false) :
    (x.run t contents).exporter.success ↔
      x.success ∧ x.directoryFault t = none ∧ ∀ f ∈ x.faults t contents, f = none := by
  obtain ⟨hexporter, -, haborted⟩ := run_of_lookup contents (lookup_of_run hend)
  rw [haborted] at hend
  rw [hexporter]
  unfold fill at hend ⊢
  unfold directoryFault faults start
  split at hend
  next t' h => simp [h, (writeAll_contract x t' contents).2 hend]
  next t' fault names h => simp [h, not_success_of_refuse hend]

theorem success_run_eq_false_iff (hx : x.success) (hend : (x.run t contents).aborted = false) :
    (x.run t contents).exporter.success = false ↔
      x.directoryFault t ≠ none ∨ ∃ f ∈ x.faults t contents, f ≠ none := by
  rw [← Bool.not_eq_true, success_run_iff hend, and_iff_right hx, not_and_or, not_forall]
  simp only [not_forall, exists_prop, ne_eq]

/-- A directory is refused with a fault that escapes just if one of its names holds the character NUL. -/
theorem directoryFault_escapes_iff : (x.directoryFault t).any FileFault.escapes ↔ HoldsNul x.directory := by
  unfold directoryFault
  constructor
  · cases hmake : ((x.cleaned t).makeDirectories x.limit x.directory).2 with
    | none => simp
    | some fault => exact fun h => (makeDirectories_escapes hmake h).2
  · intro h
    rw [makeDirectories_of_holdsNul h]
    rfl

/-! ### The artifacts of a rendering -/

theorem escapes_of_writeFaults {limit : NameLimit} {mode : WriteMode} {directory : Path}
    (h : ∃ f ∈ writeFaults limit mode directory t contents, f.any FileFault.escapes) :
    ∃ e ∈ contents, HoldsNul (directory.join (Path.ofText e.1)).names ∨ ¬ e.2.Encodable := by
  induction contents generalizing t with
  | nil => simp [writeFaults] at h
  | cons e rest ih =>
    rw [writeFaults, List.exists_mem_cons_iff] at h
    rcases h with h | h
    · obtain ⟨fault, hfault, hescapes⟩ := (Option.any_eq_true _ _).1 h
      refine ⟨e, List.mem_cons_self, ?_⟩
      rcases Disk.write_escapes hfault hescapes with ⟨-, hnul⟩ | ⟨-, hcontent⟩
      · exact .inl (by rwa [Disk.trail_nil] at hnul)
      · exact .inr hcontent
    · obtain ⟨e', he', hcause⟩ := ih h
      exact ⟨e', List.mem_cons_of_mem e he', hcause⟩

end SchemaTypes.Exporter

namespace SchemaTypes

namespace Site
variable {file : String}

end Site

variable {d : Document} {s : Settings} {disk : Disk} {r : Rendering} {x : Exporter}

theorem exists_contents_iff {ss : List Site} {runtimeModule path : String}
    (h : renderSites ss runtimeModule = .ok r) : (∃ e ∈ r.contents, e.1 = path) ↔
    ∃ site ∈ ss, ∃ file ∈ Site.fileNames, Site.place site.directory file = path := by
  have hpaths : (r.artifacts.map fun a => (a.path, a.content)).map Prod.fst =
      ss.flatMap fun s => Site.fileNames.map (Site.place s.directory) := by
    rw [List.map_map]
    exact map_path_renderSites h
  have hmem : path ∈ Keyed.names r.contents ↔ _ := Keyed.mem_names_ofList
  rw [hpaths] at hmem
  simpa [Keyed.names] using hmem

end SchemaTypes
