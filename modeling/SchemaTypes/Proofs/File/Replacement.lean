import SchemaTypes.Proofs.File.Directories

/-!
# Replacing a file

A file that is written under a fresh name beside its target and moved over it leaves the tree that
writing the target itself leaves (`FileTree.replaceFile_eq`). So, where
names of every length are taken, the two ways of writing differ at most in the fault, where the path ends
in `..` or at the root and leads to no file at all (`Disk.write_mode`).
-/

namespace SchemaTypes

namespace Disk
open FileTree

variable {limit : NameLimit} {p : Path} {l : Location}

/-- Into a directory that is there, both ways of writing put the file at the target, unless the name of
the temporary file is too long. -/
theorem writeInto_of_target (d : Disk) (mode : WriteMode) (bytes : List UInt8) (hne : p.names ≠ [])
    (htarget : d.tree.target limit (d.trail p) = .ok (some l)) : d.writeInto limit mode p bytes =
      if mode = .plain ∨ limit.allows (mode.given p.name) then d.tree.settled (d.tree.putFile l bytes)
      else (d.tree, some .nameTooLong) := by
  unfold writeInto
  dsimp only
  rw [if_neg hne, htarget]
  cases mode with
  | plain => rfl
  | atomic => simp [replaceFile_eq]

/-- Into a directory that is there, both ways write the same, unless there is no file to be written. -/
theorem writeInto_mode (d : Disk) (p : Path) (bytes : List UInt8) :
    d.writeInto none .atomic p bytes = d.writeInto none .plain p bytes ∨
      d.writeInto none .atomic p bytes = (d.tree, some .busy) ∧
        d.writeInto none .plain p bytes = (d.tree, some .isDirectory) := by
  by_cases hne : p.names = []
  · unfold writeInto
    dsimp only
    rw [if_pos hne]
    exact .inr ⟨rfl, rfl⟩
  · cases htarget : d.tree.target none (d.trail p) with
    | error e =>
      unfold writeInto
      dsimp only
      rw [if_neg hne, htarget]
      exact .inl rfl
    | ok place =>
      cases place with
      | none =>
        unfold writeInto
        dsimp only
        rw [if_neg hne, htarget]
        exact .inr ⟨rfl, rfl⟩
      | some l =>
        left
        rw [writeInto_of_target d .atomic bytes hne htarget, writeInto_of_target d .plain bytes hne htarget,
          if_pos (.inr rfl), if_pos (.inl rfl)]

/-- Both ways of writing leave one tree, and one fault or none, but that a path without a file in the
end is refused as a file in use or as a directory. -/
theorem write_mode (d : Disk) (p : Path) (content : Content) :
    d.write none .atomic p content = d.write none .plain p content ∨
      (d.write none .atomic p content).1 = (d.write none .plain p content).1 ∧
        (d.write none .atomic p content).2 = some .busy ∧
        (d.write none .plain p content).2 = some .isDirectory := by
  unfold write
  split
  · exact .inl rfl
  next t _ =>
    cases content.encode? with
    | none => exact .inl rfl
    | some bytes =>
      rcases writeInto_mode { d with tree := t } p bytes with h | ⟨hatomic, hplain⟩
      · exact .inl h
      · dsimp only
        rw [hatomic, hplain]
        exact .inr ⟨rfl, rfl, rfl⟩

end Disk

end SchemaTypes
