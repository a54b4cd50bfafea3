import Mathlib.Data.List.Basic
import SchemaTypes.Proofs.Text.Case
import SchemaTypes.Text.Lines
import SchemaTypes.Text.Word

/-!
# Where a word stands

`HasWord` says of a text that a needle stands in it and that no word character stands beside it. Larger
texts have the words of their parts as long as the parts are set off by other characters
(`HasWord.within`), so what stands in a line stands in the lines (`HasWord.intercalate`). The search
finds such a needle if it starts and ends in word characters (`HasWord.occursAsWord`).
-/

namespace SchemaTypes.Text

/-- The text is empty or ends in a character that is no word character. -/
def SetOffBehind (s : String) : Prop := s.toList.getLast?.any isWord = false

/-- The text is empty or starts with a character that is no word character. -/
def SetOffAhead (s : String) : Prop := s.toList.head?.any isWord = false

instance (s : String) : Decidable (SetOffBehind s) := inferInstanceAs (Decidable (_ = _))

instance (s : String) : Decidable (SetOffAhead s) := inferInstanceAs (Decidable (_ = _))

/-- The needle stands in the text with no word character beside it. -/
def HasWord (text needle : String) : Prop :=
  ∃ before after, text = before ++ needle ++ after ∧ SetOffBehind before ∧ SetOffAhead after

variable {text needle a b : String}

theorem SetOffBehind.append (ha : SetOffBehind a) (hb : SetOffBehind b) : SetOffBehind (a ++ b) := by
  unfold SetOffBehind at *
  rw [String.toList_append, List.getLast?_append]
  cases h : b.toList.getLast? with
  | none => exact ha
  | some c => rwa [h] at hb

theorem SetOffBehind.append_right (hne : b ≠ "") (hb : SetOffBehind b) : SetOffBehind (a ++ b) := by
  unfold SetOffBehind at *
  rw [String.toList_append, List.getLast?_append]
  cases h : b.toList.getLast? with
  | none => exact absurd (String.toList_eq_nil_iff.1 (List.getLast?_eq_none_iff.1 h)) hne
  | some c => rwa [h] at hb

theorem SetOffAhead.append (ha : SetOffAhead a) (hb : SetOffAhead b) : SetOffAhead (a ++ b) := by
  unfold SetOffAhead at *
  rw [String.toList_append, List.head?_append]
  cases h : a.toList.head? with
  | none => exact hb
  | some c => rwa [h] at ha

theorem SetOffAhead.append_left (hne : a ≠ "") (ha : SetOffAhead a) : SetOffAhead (a ++ b) := by
  unfold SetOffAhead at *
  rw [String.toList_append, List.head?_append]
  cases h : a.toList.head? with
  | none => exact absurd (String.toList_eq_nil_iff.1 (List.head?_eq_none_iff.1 h)) hne
  | some c => rwa [h] at ha

theorem isWord_of_isAlpha {c : Char} (h : c.isAlpha) : isWord c := by
  rw [isWord, if_pos (toNat_lt_of_isAlpha h), Char.isAlphanum, h, Bool.true_or, Bool.true_or]

/-! ### Words of larger texts -/

namespace HasWord

theorem refl (needle : String) : HasWord needle needle := ⟨"", "", by simp, by decide, by decide⟩

theorem within (h : HasWord text needle) (ha : SetOffBehind a) (hb : SetOffAhead b) :
    HasWord (a ++ text ++ b) needle := by
  obtain ⟨before, after, rfl, hbefore, hafter⟩ := h
  exact ⟨a ++ before, after ++ b, by simp only [String.append_assoc], ha.append hbefore, hafter.append hb⟩

theorem trans {middle : String} (h : HasWord text middle) (h' : HasWord middle needle) :
    HasWord text needle := by
  obtain ⟨a, b, rfl, ha, hb⟩ := h
  exact h'.within ha hb

theorem intercalate {sep : String} {ls : List String} (hne : sep ≠ "") (hbehind : SetOffBehind sep)
    (hahead : SetOffAhead sep) (hmem : text ∈ ls) (h : HasWord text needle) :
    HasWord (sep.intercalate ls) needle := by
  obtain ⟨before, after, heq, hbefore, hafter⟩ := exists_intercalate_eq hmem
  rw [heq]
  refine h.within ?_ ?_
  · rcases hbefore with rfl | ⟨front, rfl⟩
    · decide
    · exact hbehind.append_right hne
  · rcases hafter with rfl | ⟨back, rfl⟩
    · decide
    · exact hahead.append_left hne

theorem unlines {ls : List String} (hmem : text ∈ ls) (h : HasWord text needle) :
    HasWord (unlines ls) needle :=
  h.intercalate (by decide) (by decide) (by decide) hmem

theorem blocks {bs : List String} (hmem : text ∈ bs) (h : HasWord text needle) : HasWord (blocks bs) needle :=
  h.intercalate (by decide) (by decide) (by decide) hmem

theorem indent {ls : List String} (hmem : text ∈ ls) (h : HasWord text needle) :
    ∃ l ∈ indent ls, HasWord l needle := by
  refine ⟨_, List.mem_map_of_mem hmem, ?_⟩
  split
  · exact h
  · have hjoin := h.within (a := spaces 2) (b := "") (by decide) (by decide)
    rwa [String.append_empty] at hjoin

end HasWord

/-! ### The search -/

variable {cs before after : List Char}

theorem wordWithin_of_front {left : Option Char} (h : wordAtFront needle.toList left cs) :
    wordWithin needle.toList left cs := by
  cases cs with
  | nil => exact h
  | cons c cs => rw [wordWithin, h, Bool.true_or]

theorem wordWithin_append (left : Option Char) (hbefore : (before.getLast?.or left).any isWord = false)
    (hafter : after.head?.any isWord = false) (hfirst : needle.toList.head?.any isWord)
    (hlast : needle.toList.getLast?.any isWord) :
    wordWithin needle.toList left (before ++ (needle.toList ++ after)) := by
  induction before generalizing left with
  | nil =>
    obtain ⟨c, hc, hfirst⟩ := (Option.any_eq_true _ _).1 hfirst
    obtain ⟨e, he, hlast⟩ := (Option.any_eq_true _ _).1 hlast
    have hleft : left.any isWord = false := hbefore
    have hstart : isBoundary left (needle.toList ++ after).head? := by
      rw [List.head?_append, hc]
      simp [isBoundary, hleft, hfirst]
    have hend : isBoundary (needle.toList.getLast?.or left) after.head? := by
      rw [he]
      simp [isBoundary, hafter, hlast]
    refine wordWithin_of_front ?_
    unfold wordAtFront
    rw [List.nil_append, dropFront?_eq_some.2 rfl]
    exact Bool.and_eq_true_iff.2 ⟨hstart, hend⟩
  | cons c before ih =>
    rw [List.cons_append, wordWithin, ih (some c), Bool.or_true]
    -- the last character in front of the needle is the same, seen from the second character
    rw [List.getLast?_cons] at hbefore
    cases h : before.getLast? <;> simpa [h] using hbefore

theorem HasWord.occursAsWord (h : HasWord text needle) (hfirst : needle.toList.head?.any isWord)
    (hlast : needle.toList.getLast?.any isWord) : occursAsWord needle text := by
  obtain ⟨before, after, rfl, hbefore, hafter⟩ := h
  unfold Text.occursAsWord
  rw [String.toList_append, String.toList_append, List.append_assoc]
  exact wordWithin_append none (by rwa [Option.or_none]) hafter hfirst hlast

end SchemaTypes.Text
