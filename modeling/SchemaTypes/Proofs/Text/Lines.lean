import Mathlib.Data.List.Induction
import SchemaTypes.Artifact

/-!
# The lines of a text

A text is cut into lines by its line feeds; what stands behind the last one is a further line, unless it
is empty (`OfLines`). Both counters, that of a text and that of an artifact, count these lines
(`ofLines_iff`, `Artifact.lineCount_eq`).
-/

namespace SchemaTypes.Text

variable {s : String} {n : Nat} {cs : List Char}

/-- The text is `n` lines: finished ones, each with its line feed, and an unfinished one if it does not
end there. -/
def OfLines (s : String) (n : Nat) : Prop :=
  ∃ (finished : List (List Char)) (rest : List Char), (∀ l ∈ finished, '\n' ∉ l) ∧ '\n' ∉ rest ∧
    s.toList = (finished.flatMap fun l => l ++ ['\n']) ++ rest ∧
    n = finished.length + if rest = [] then 0 else 1

theorem exists_finished (cs : List Char) : ∃ (finished : List (List Char)) (rest : List Char),
    (∀ l ∈ finished, '\n' ∉ l) ∧ '\n' ∉ rest ∧ cs = (finished.flatMap fun l => l ++ ['\n']) ++ rest := by
  induction cs with
  | nil => exact ⟨[], [], by simp, by simp, rfl⟩
  | cons c cs ih =>
    obtain ⟨finished, rest, hfinished, hrest, rfl⟩ := ih
    by_cases hc : c = '\n'
    · exact ⟨[] :: finished, rest, by simpa using hfinished, hrest, by simp [hc]⟩
    -- the character is in front of the first line
    · cases finished with
      | nil => exact ⟨[], c :: rest, by simp, by simpa [Ne.symm hc] using hrest, rfl⟩
      | cons l ls =>
        obtain ⟨hl, hls⟩ := List.forall_mem_cons.1 hfinished
        refine ⟨(c :: l) :: ls, rest, List.forall_mem_cons.2 ⟨?_, hls⟩, hrest, rfl⟩
        simpa [Ne.symm hc] using hl

theorem count_flatMap_finished {finished : List (List Char)} (h : ∀ l ∈ finished, '\n' ∉ l) :
    (finished.flatMap fun l => l ++ ['\n']).count '\n' = finished.length := by
  induction finished with
  | nil => rfl
  | cons l ls ih =>
    obtain ⟨hl, hls⟩ := List.forall_mem_cons.1 h
    rw [List.flatMap_cons, List.count_append, List.count_append, List.count_eq_zero_of_not_mem hl, ih hls,
      List.length_cons, List.count_singleton_self]
    omega

theorem lineCount_of_lines {finished : List (List Char)} {rest : List Char}
    (hfinished : ∀ l ∈ finished, '\n' ∉ l) (hrest : '\n' ∉ rest)
    (h : s.toList = (finished.flatMap fun l => l ++ ['\n']) ++ rest) :
    lineCount s = finished.length + if rest = [] then 0 else 1 := by
  have hcount : s.toList.count '\n' = finished.length := by
    rw [h, List.count_append, count_flatMap_finished hfinished, List.count_eq_zero_of_not_mem hrest, Nat.add_zero]
  rw [lineCount, hcount, h]
  cases rest using List.reverseRecOn with
  | append_singleton rest c _ =>
    have hc : c ≠ '\n' := by
      rintro rfl
      exact hrest (List.mem_append_right rest (List.mem_singleton_self _))
    simp [hc]
  | nil =>
    cases finished using List.reverseRecOn with
    | nil => rfl
    | append_singleton ls l _ => simp

/-- The number of lines is counted. -/
theorem ofLines_iff : OfLines s n ↔ n = lineCount s := by
  constructor
  · rintro ⟨finished, rest, hfinished, hrest, h, rfl⟩
    exact (lineCount_of_lines hfinished hrest h).symm
  · rintro rfl
    obtain ⟨finished, rest, hfinished, hrest, h⟩ := exists_finished s.toList
    exact ⟨finished, rest, hfinished, hrest, h, lineCount_of_lines hfinished hrest h⟩

example : OfLines "a\n\nb" 3 := ofLines_iff.2 rfl

end SchemaTypes.Text

namespace SchemaTypes.Artifact

/-- The counter of artifacts is that of the texts that are written. -/
theorem lineCount_eq (a : Artifact) : a.lineCount = Text.lineCount a.content := by
  unfold lineCount Text.lineCount
  cases h : a.content.toList.getLast? with
  | none => exact if_pos (String.toList_eq_nil_iff.1 (List.getLast?_eq_none_iff.1 h))
  | some c =>
    have hne : a.content ≠ "" := by
      intro hempty
      rw [hempty] at h
      cases h
    rw [if_neg hne]
    simp only [Option.some.injEq]

end SchemaTypes.Artifact
