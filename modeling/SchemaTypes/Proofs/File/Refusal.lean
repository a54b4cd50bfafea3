import SchemaTypes.Proofs.File.Names
import SchemaTypes.Proofs.File.Writing

/-!
# Paths that no system call takes

A name with the character NUL is refused before anything is looked up, and the fault escapes. So
directories are refused over it whatever the tree (`makeDirectories_of_holdsNul`), and a file at the
latest once the directories above it are there; of the other faults only that of a content without bytes
escapes (`Disk.write_escapes`). The names of a path hold the character just if its text does
(`holdsNul_ofText`).
-/

namespace SchemaTypes

/-- One of the names holds the character NUL. -/
def HoldsNul (names : List String) : Prop := ∃ n ∈ names, '\x00' ∈ n.toList

theorem holdsNul_iff {names : List String} :
    (names.any fun n => n.toList.contains '\x00') ↔ HoldsNul names := by
  simp [HoldsNul]

theorem holdsNul_append {names others : List String} :
    HoldsNul (names ++ others) ↔ HoldsNul names ∨ HoldsNul others := by
  simp [HoldsNul, or_and_right, exists_or]

theorem HoldsNul.of_dropLast {names : List String} (h : HoldsNul names.dropLast) : HoldsNul names :=
  let ⟨n, hn, hnul⟩ := h
  ⟨n, List.mem_of_mem_dropLast hn, hnul⟩

/-! ### Texts and names -/

namespace Path

theorem holdsNul_ofText {s : String} : HoldsNul (ofText s).names ↔ '\x00' ∈ s.toList := by
  have hparts : HoldsNul (Text.parts (· = '/') s) ↔ '\x00' ∈ s.toList := by
    have hwords : (∃ w ∈ Text.splitWords (· = '/') s.toList, '\x00' ∈ w) ↔ _ :=
      Text.mem_splitWords_iff s.toList
    simpa [HoldsNul, Text.parts] using hwords
  rw [← hparts]
  constructor
  · rintro ⟨n, hn, hnul⟩
    exact ⟨n, List.mem_of_mem_filter hn, hnul⟩
  · rintro ⟨n, hn, hnul⟩
    have hdot : n ≠ "." := by
      rintro rfl
      revert hnul
      decide
    exact ⟨n, List.mem_filter.2 ⟨hn, decide_eq_true hdot⟩, hnul⟩

end Path

/-! ### Refusals -/

namespace FileTree
variable {t : FileTree} {limit : NameLimit} {here dir : Location} {names : List String} {n : String}
  {fault : FileFault}

theorem escapes_missing : (limit.missing n).escapes = false := by
  unfold NameLimit.missing
  split <;> rfl

theorem escapes_of_walk (h : t.walk limit here names = .error fault) : fault.escapes = false := by
  induction names generalizing here with
  | nil => cases h
  | cons n ns ih =>
    rw [walk] at h
    split at h
    · exact ih h
    · split at h
      · exact ih h
      · cases h
        rfl
      · cases h
        exact escapes_missing

theorem walk_ne_nameTooLong (h : ∀ n ∈ names, limit.allows n) :
    t.walk limit here names ≠ .error .nameTooLong := by
  induction names generalizing here with
  | nil =>
    intro hwalk
    cases hwalk
  | cons n ns ih =>
    obtain ⟨hn, hns⟩ := List.forall_mem_cons.1 h
    rw [walk]
    split
    · exact ih hns
    · split
      · exact ih hns
      · simp
      · simp [NameLimit.missing, hn]

theorem escapes_of_place (h : t.place limit dir n = .error fault) : fault.escapes = false := by
  unfold place at h
  split at h
  · cases h
  · split at h <;> cases h
    rfl

/-- Of the faults that escape, names have only the one over the character. -/
theorem target_escapes (h : t.target limit names = .error fault) (hescapes : fault.escapes) :
    fault = .nul ∧ HoldsNul names := by
  unfold target at h
  by_cases hnul : names.any fun n => n.toList.contains '\x00'
  · rw [if_pos hnul] at h
    cases h
    exact ⟨rfl, holdsNul_iff.1 hnul⟩
  · rw [if_neg hnul] at h
    refine absurd hescapes (Bool.eq_false_iff.1 ?_)
    rcases Traversal.bind_eq_error_iff.1 h with h | ⟨dir, -, h⟩
    · exact escapes_of_walk h
    · split at h
      · cases h
      · exact escapes_of_place h

theorem target_eq_nul_iff : t.target limit names = .error .nul ↔ HoldsNul names := by
  refine ⟨fun h => (target_escapes h rfl).2, fun h => ?_⟩
  unfold target
  rw [if_pos (holdsNul_iff.2 h)]
  rfl

theorem makeDirectory_escapes (h : t.makeDirectory limit names = .error fault) (hescapes : fault.escapes) :
    fault = .nul ∧ HoldsNul names := by
  unfold makeDirectory at h
  split at h
  next e he =>
    cases h
    exact target_escapes he hescapes
  · cases h
    cases hescapes
  · split at h
    · split at h <;> cases h
      cases hescapes
    · cases h
      cases hescapes

theorem makeDirectory_of_holdsNul (h : HoldsNul names) : t.makeDirectory limit names = .error .nul := by
  unfold makeDirectory
  rw [target_eq_nul_iff.2 h]

theorem makeDirectories_of_holdsNul (h : HoldsNul names) :
    t.makeDirectories limit names = (t, some (.nul, names)) := by
  have hstat : t.stat names = none := by rw [stat, target_eq_nul_iff.2 h]
  rw [makeDirectories, makeDirectory_of_holdsNul h]
  simp [hstat]

theorem makeDirectories_escapes {l : List String} (h : (t.makeDirectories limit names).2 = some (fault, l))
    (hescapes : fault.escapes) : fault = .nul ∧ HoldsNul names := by
  have hlast {t : FileTree} {names : List String} {e : FileFault}
      (hfault : t.makeDirectory limit names = .error e)
      (h : (if t.stat names = some .directory then none else some (e, names)) = some (fault, l)) :
      fault = .nul ∧ HoldsNul names := by
    split at h
    · cases h
    · cases h
      exact makeDirectory_escapes hfault hescapes
  fun_induction makeDirectories t limit names with
  | case1 => cases h
  | case2 =>
    cases h
    cases hescapes
  | case3 names _ _ t' fault habove ih =>
    rw [habove] at ih
    exact (ih h).imp_right .of_dropLast
  | case4 => cases h
  | case5 names _ _ t' habove fault hfault ih => exact hlast hfault h
  | case6 names fault _ hfault => exact hlast hfault h

theorem escapes_of_putFile {l : Location} {content : List UInt8} (h : t.putFile l content = .error fault) :
    fault.escapes = false := by
  unfold putFile at h
  split at h
  · split at h <;> cases h
    rfl
  · cases h
    rfl

end FileTree

namespace Disk
variable {d : Disk} {limit : NameLimit} {mode : WriteMode} {p : Path} {bytes : List UInt8} {content : Content}
  {fault : FileFault}

theorem trail_nil (t : FileTree) (p : Path) : (Disk.mk t []).trail p = p.names := by
  unfold trail
  split <;> rfl

theorem holdsNul_trail_parent (h : HoldsNul (d.trail p.parent)) : HoldsNul (d.trail p) := by
  unfold trail at h ⊢
  cases hroot : p.root with
  | none =>
    rw [show p.parent.root = .none from hroot] at h
    exact holdsNul_append.2 ((holdsNul_append.1 h).imp_right .of_dropLast)
  | slash =>
    rw [show p.parent.root = .slash from hroot] at h
    exact .of_dropLast h
  | slashes =>
    rw [show p.parent.root = .slashes from hroot] at h
    exact .of_dropLast h

theorem writeInto_escapes (h : (d.writeInto limit mode p bytes).2 = some fault) (hescapes : fault.escapes) :
    fault = .nul ∧ HoldsNul (d.trail p) := by
  have hput {l : Location} (h : (d.tree.settled (d.tree.putFile l bytes)).2 = some fault) :
      fault = .nul ∧ HoldsNul (d.trail p) := by
    rw [FileTree.escapes_of_putFile (FileTree.settled_eq_fault (Prod.ext rfl h)).2] at hescapes
    cases hescapes
  unfold writeInto at h
  dsimp only at h
  split at h
  next e htarget =>
    cases h
    split at htarget
    · cases htarget
    · exact FileTree.target_escapes htarget hescapes
  · cases h
    cases hescapes
  · exact hput h
  · cases h
    cases hescapes
  · split at h
    · rw [FileTree.replaceFile_eq] at h
      exact hput h
    · cases h
      cases hescapes

/-- A fault that escapes is one over the character in the path, or over the content. -/
theorem write_escapes (h : (d.write limit mode p content).2 = some fault) (hescapes : fault.escapes) :
    fault = .nul ∧ HoldsNul (d.trail p) ∨ fault = .unencodable ∧ ¬ content.Encodable := by
  unfold write at h
  split at h
  next t e l hmake =>
    have hmake := congrArg Prod.snd hmake
    cases h
    exact .inl ((FileTree.makeDirectories_escapes hmake hescapes).imp_right holdsNul_trail_parent)
  next t hmake =>
    split at h
    next hbytes =>
      cases h
      exact .inr ⟨rfl, by simp [Content.Encodable, hbytes]⟩
    · exact .inl (writeInto_escapes (d := { d with tree := t }) h hescapes)

end Disk

end SchemaTypes
