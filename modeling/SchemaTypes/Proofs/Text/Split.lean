import Mathlib.Data.List.Basic
import SchemaTypes.Text.Split

/-!
# Words between separators

The words of a text are its runs without separators. None is empty and none holds a separator, they hold
every other character of the text (`mem_splitWords_iff`), and a separator cuts a text into two whose words
can be found apart (`splitWords_append_sep`). So words that are put together with one separator between
them are cut apart again (`splitWords_intercalate`).
-/

namespace SchemaTypes.Text

variable {sep : Char → Bool} {cs w : List Char} {c : Char} {ws : List (List Char)}

theorem splitWords_cons (c : Char) (cs : List Char) : splitWords sep (c :: cs) =
    if sep c then splitWords sep cs
    else match cs, splitWords sep cs with
      | d :: _, w :: ws => if sep d then [c] :: w :: ws else (c :: w) :: ws
      | _, ws => [c] :: ws := rfl

theorem splitWords_sep (hc : sep c) : splitWords sep (c :: cs) = splitWords sep cs := by
  rw [splitWords_cons, if_pos hc]

theorem splitWords_append (hw : ∀ c ∈ w, ¬ sep c) (hne : w ≠ [])
    (hcs : ∀ c ∈ cs.head?, sep c) : splitWords sep (w ++ cs) = w :: splitWords sep cs := by
  induction w with
  | nil => exact absurd rfl hne
  | cons c w ih =>
    obtain ⟨hc, hw⟩ := List.forall_mem_cons.1 hw
    rw [List.cons_append, splitWords_cons, if_neg hc]
    cases w with
    | nil =>
      rw [List.nil_append]
      cases cs with
      | nil => rfl
      | cons d cs =>
        have hd : sep d := hcs d rfl
        cases splitWords sep (d :: cs) with
        | nil => rfl
        | cons u us => exact if_pos hd
    | cons d w =>
      have hd : ¬ sep d := hw d List.mem_cons_self
      rw [ih hw (List.cons_ne_nil d w)]
      exact if_neg hd

theorem splitWords_singleton (hw : ∀ c ∈ w, ¬ sep c) (hne : w ≠ []) : splitWords sep w = [w] := by
  have hword : splitWords sep (w ++ []) = w :: splitWords sep [] := splitWords_append hw hne (by simp)
  rwa [List.append_nil] at hword

theorem exists_splitWords_cons (hc : ¬ sep c) (cs : List Char) :
    ∃ w ws, splitWords sep (c :: cs) = (c :: w) :: ws := by
  rw [splitWords_cons, if_neg hc]
  split
  next d _ w ws _ =>
    by_cases hd : sep d
    · exact ⟨[], w :: ws, if_pos hd⟩
    · exact ⟨w, ws, if_neg hd⟩
  · exact ⟨[], _, rfl⟩

theorem splitWords_cons_of_not (hc : ¬ sep c) (cs : List Char) : splitWords sep (c :: cs) =
    if cs.head?.any (fun d => !sep d) then (splitWords sep cs).modifyHead (c :: ·)
    else [c] :: splitWords sep cs := by
  rw [splitWords_cons, if_neg hc]
  cases cs with
  | nil => rfl
  | cons d cs =>
    by_cases hd : sep d
    · cases splitWords sep (d :: cs) <;> simp [hd]
    · obtain ⟨w, ws, heq⟩ := exists_splitWords_cons hd cs
      simp [heq, hd]

theorem mem_splitWords (h : w ∈ splitWords sep cs) : w ≠ [] ∧ ∀ c ∈ w, ¬ sep c := by
  induction cs generalizing w with
  | nil => exact absurd h List.not_mem_nil
  | cons c cs ih =>
    rw [splitWords_cons] at h
    split at h
    · exact ih h
    next hc =>
      split at h
      next d _ u us heq =>
        rw [heq] at ih
        have hu := ih (w := u) List.mem_cons_self
        split at h
        · rcases List.mem_cons.1 h with rfl | h
          · exact ⟨List.cons_ne_nil c [], by simpa using hc⟩
          · exact ih h
        · rcases List.mem_cons.1 h with rfl | h
          · exact ⟨List.cons_ne_nil c u, List.forall_mem_cons.2 ⟨hc, hu.2⟩⟩
          · exact ih (List.mem_cons_of_mem u h)
      next =>
        rcases List.mem_cons.1 h with rfl | h
        · exact ⟨List.cons_ne_nil c [], by simpa using hc⟩
        · exact ih h

theorem mem_splitWords_iff (cs : List Char) : (∃ w ∈ splitWords sep cs, c ∈ w) ↔ c ∈ cs ∧ ¬ sep c := by
  induction cs with
  | nil => simp [splitWords]
  | cons d cs ih =>
    rw [splitWords_cons]
    by_cases hd : sep d
    · rw [if_pos hd, ih, List.mem_cons]
      constructor
      · rintro ⟨hc, hsep⟩
        exact ⟨.inr hc, hsep⟩
      · rintro ⟨rfl | hc, hsep⟩
        · exact absurd hd hsep
        · exact ⟨hc, hsep⟩
    · have hhere : (∃ w ∈ [d] :: splitWords sep cs, c ∈ w) ↔ c ∈ d :: cs ∧ ¬ sep c := by
        rw [List.exists_mem_cons_iff, ih, List.mem_singleton, List.mem_cons, or_and_right]
        exact or_congr_left ⟨fun h => ⟨h, h ▸ hd⟩, And.left⟩
      rw [if_neg hd, ← hhere]
      split
      next w ws heq =>
        split
        · rw [heq]
        · -- the character goes in front of the first word
          rw [heq, List.exists_mem_cons_iff, List.exists_mem_cons_iff, List.exists_mem_cons_iff,
            List.mem_cons, List.mem_singleton, or_assoc]
      · rfl

theorem eq_or_mem_of_mem_intercalate {x : Char} (h : x ∈ [c].intercalate ws) : x = c ∨ ∃ w ∈ ws, x ∈ w := by
  induction ws with
  | nil => cases h
  | cons w ws ih =>
    cases ws with
    | nil => exact .inr ⟨w, List.mem_cons_self, by rwa [List.intercalate_singleton] at h⟩
    | cons v vs =>
      rw [List.intercalate_cons_cons, List.mem_append, List.mem_append, List.mem_singleton] at h
      rcases h with (h | h) | h
      · exact .inr ⟨w, List.mem_cons_self, h⟩
      · exact .inl h
      · exact (ih h).imp_right fun ⟨u, hu, hx⟩ => ⟨u, List.mem_cons_of_mem w hu, hx⟩

theorem map_intercalate (f : Char → Char) (cs : List Char) (ws : List (List Char)) :
    (cs.intercalate ws).map f = (cs.map f).intercalate (ws.map (List.map f)) := by
  induction ws with
  | nil => rfl
  | cons w ws ih =>
    cases ws with
    | nil => rw [List.intercalate_singleton, List.map_singleton, List.intercalate_singleton]
    | cons v vs =>
      simp only [List.map_cons] at ih ⊢
      rw [List.intercalate_cons_cons, List.intercalate_cons_cons, List.map_append, List.map_append, ih]

/-- Words with one separator between them are the words of the text. -/
theorem splitWords_intercalate (hc : sep c) (hws : ∀ w ∈ ws, w ≠ [] ∧ ∀ x ∈ w, ¬ sep x) :
    splitWords sep ([c].intercalate ws) = ws := by
  induction ws with
  | nil => rfl
  | cons w ws ih =>
    obtain ⟨⟨hne, hw⟩, hws⟩ := List.forall_mem_cons.1 hws
    cases ws with
    | nil => rw [List.intercalate_singleton, splitWords_singleton hw hne]
    | cons v vs =>
      rw [List.intercalate_cons_cons, List.append_assoc, List.singleton_append,
        splitWords_append hw hne (by simpa using hc), splitWords_sep hc, ih hws]

end SchemaTypes.Text
