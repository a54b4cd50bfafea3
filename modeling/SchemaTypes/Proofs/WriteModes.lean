import SchemaTypes.Proofs.Bookkeeping
import SchemaTypes.Proofs.File.Replacement

/-!
# Two ways of writing

An export through temporary files and one that writes its files at once go through the same trees: each
write leaves the same tree in both (`Disk.write_mode`), and so the next one finds what it finds in the
other. They record the same artifacts and refuse the same ones (`run_mode`), whatever the paths, where
names of every length are taken.
-/

namespace SchemaTypes

/-- `x` writes through temporary files and `y` does not. Apart from that they are set up alike, and they
have recorded and refused the same artifacts. -/
structure Exporter.Counterparts (x y : Exporter) : Prop where
  atomic : x.mode = .atomic
  plain : y.mode = .plain
  unlimited : x.limit = none ∧ y.limit = none
  directory : x.directory = y.directory
  clean : x.clean = y.clean
  records : x.records = y.records
  refused : x.errors.map ExportError.artifact? = y.errors.map ExportError.artifact?

/-- Counterparts have come to one tree, and have both gone through to the end or both broken off. -/
structure Export.Alike (done other : Export) : Prop where
  exporter : done.exporter.Counterparts other.exporter
  tree : done.tree = other.tree
  aborted : done.aborted = other.aborted

namespace Exporter.Counterparts

variable {x y : Exporter} {t : FileTree} {contents : Drafts} {artifact : String} {content : Content}

theorem path (h : x.Counterparts y) : x.path = y.path := by rw [Exporter.path, Exporter.path, h.directory]

theorem addError (h : x.Counterparts y) {e e' : ExportError} (he : e.artifact? = e'.artifact?) :
    (x.addError e).Counterparts (y.addError e') where
  atomic := h.atomic
  plain := h.plain
  unlimited := h.unlimited
  directory := h.directory
  clean := h.clean
  records := h.records
  refused := by
    show (x.errors ++ [e]).map _ = (y.errors ++ [e']).map _
    rw [List.map_append, List.map_append, h.refused, List.map_singleton, List.map_singleton, he]

theorem refuse (h : x.Counterparts y) {fault fault' : FileFault} (hescapes : fault.escapes = fault'.escapes)
    {e e' : ExportError} (he : e.artifact? = e'.artifact?) :
    (x.refuse t fault e).Alike (y.refuse t fault' e') := by
  unfold Exporter.refuse
  rw [hescapes]
  split
  · exact ⟨h, rfl, rfl⟩
  · exact ⟨h.addError he, rfl, rfl⟩

theorem write (h : x.Counterparts y) : (x.write t artifact content).Alike (y.write t artifact content) := by
  have hwrite := Disk.write_mode (Disk.mk t []) (y.path.join (Path.ofText artifact)) content
  rw [← h.atomic, ← h.plain] at hwrite
  unfold Exporter.write
  rw [h.path, show (Disk.mk t []).write x.limit = (Disk.mk t []).write none from congrArg _ h.unlimited.1,
    show (Disk.mk t []).write y.limit = (Disk.mk t []).write none from congrArg _ h.unlimited.2]
  dsimp only
  rcases hwrite with hsame | ⟨htree, hbusy, hdirectory⟩
  · rw [hsame]
    split
    · exact ⟨{ h with records := congrArg (· ++ [_]) h.records }, rfl, rfl⟩
    · exact h.refuse rfl rfl
  · -- the path leads to no file, and is refused in two different words
    generalize (Disk.mk t []).write none x.mode _ _ = done at htree hbusy ⊢
    generalize (Disk.mk t []).write none y.mode _ _ = other at htree hdirectory ⊢
    obtain ⟨t', fault⟩ := done
    obtain ⟨t'', fault'⟩ := other
    cases htree
    cases hbusy
    cases hdirectory
    exact h.refuse rfl rfl

theorem writeAll (h : x.Counterparts y) : (x.writeAll t contents).Alike (y.writeAll t contents) := by
  induction contents generalizing x y t with
  | nil => exact ⟨h, rfl, rfl⟩
  | cons e rest ih =>
    have hfirst : (x.write t e.1 e.2).Alike (y.write t e.1 e.2) := h.write
    have hrest := ih hfirst.exporter (t := (y.write t e.1 e.2).tree)
    cases hend : (y.write t e.1 e.2).aborted with
    | true =>
      rw [writeAll_aborted hend, writeAll_aborted (hfirst.aborted.trans hend)]
      exact hfirst
    | false =>
      obtain ⟨hexporter, htree, haborted⟩ := writeAll_cons rest (hfirst.aborted.trans hend)
      obtain ⟨hexporter', htree', haborted'⟩ := writeAll_cons rest hend
      rw [hfirst.tree] at hexporter htree haborted
      exact ⟨hexporter ▸ hexporter' ▸ hrest.exporter, htree.trans (hrest.tree.trans htree'.symm),
        haborted.trans (hrest.aborted.trans haborted'.symm)⟩

theorem cleaned (h : x.Counterparts y) : x.cleaned t = y.cleaned t := by
  unfold Exporter.cleaned
  rw [h.clean, h.directory]

theorem run (h : x.Counterparts y) : (x.run t contents).Alike (y.run t contents) := by
  have hlookup {z : Exporter} (hz : z.limit = none) : z.lookupFault t = none :=
    lookupFault_eq_none fun _ _ _ => by rw [hz]; rfl
  have hfill : (x.fill (x.cleaned t) contents).Alike (y.fill (y.cleaned t) contents) := by
    unfold fill
    rw [h.cleaned, h.directory, h.unlimited.1, h.unlimited.2]
    split
    · exact h.writeAll
    · exact h.refuse rfl rfl
  obtain ⟨hexporter, htree, haborted⟩ := run_of_lookup contents (hlookup h.unlimited.1)
  obtain ⟨hexporter', htree', haborted'⟩ := run_of_lookup contents (hlookup h.unlimited.2)
  refine ⟨?_, ?_, ?_⟩
  · rw [hexporter, hexporter']
    exact hfill.exporter
  · rw [htree, htree', hfill.tree]
  · rw [haborted, haborted', hfill.aborted]

end Exporter.Counterparts

namespace Exporter

/-- Written through temporary files or at once, an export leaves the same tree, down to the order of its
entries, and records and refuses the same artifacts. -/
theorem run_mode (x : Exporter) (t : FileTree) (contents : Drafts) :
    let atomic := { x with limit := none, mode := .atomic }.run t contents
    let plain := { x with limit := none, mode := .plain }.run t contents
    atomic.tree = plain.tree ∧ atomic.exporter.records = plain.exporter.records ∧
      atomic.exporter.errors.map ExportError.artifact? =
        plain.exporter.errors.map ExportError.artifact? ∧
      atomic.aborted = plain.aborted := by
  have hstart : Counterparts { x with limit := none, mode := .atomic } { x with limit := none, mode := .plain } :=
    ⟨rfl, rfl, ⟨rfl, rfl⟩, rfl, rfl, rfl, rfl⟩
  obtain ⟨hexporter, htree, haborted⟩ :
      Export.Alike (Exporter.run { x with limit := none, mode := .atomic } t contents)
        (Exporter.run { x with limit := none, mode := .plain } t contents) := hstart.run
  exact ⟨htree, hexporter.records, hexporter.refused, haborted⟩

end Exporter

end SchemaTypes
