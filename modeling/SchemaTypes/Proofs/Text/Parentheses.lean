import Mathlib.Data.List.Infix
import Mathlib.Data.List.TakeWhile
import SchemaTypes.Text.Blank

/-!
# Balanced parentheses

A text is balanced when its parentheses pair up among themselves. Balanced texts can be put side by side
and into parentheses, and the text in front of the parenthesis that closes more than it opens is found
in one way only (`Balanced.eq_of_closed`).
-/

namespace SchemaTypes.Text

/-- The parentheses pair up: no front part closes more than it opens, and the whole closes as many as it
opens. -/
structure Balanced (cs : List Char) : Prop where
  front : ∀ p, p <+: cs → p.count ')' ≤ p.count '('
  total : cs.count ')' = cs.count '('

instance (cs : List Char) : Decidable (Balanced cs) :=
  decidable_of_iff ((∀ p ∈ cs.inits, p.count ')' ≤ p.count '(') ∧ cs.count ')' = cs.count '(')
    ⟨fun h => ⟨fun p hp => h.1 p ((List.mem_inits p cs).2 hp), h.2⟩,
      fun h => ⟨fun p hp => h.front p ((List.mem_inits p cs).1 hp), h.total⟩⟩

/-- No parenthesis stands in the text. -/
def Flat (cs : List Char) : Prop := '(' ∉ cs ∧ ')' ∉ cs

instance (cs : List Char) : Decidable (Flat cs) := inferInstanceAs (Decidable (_ ∧ _))

variable {a b x y cs : List Char}

theorem Flat.count_eq (h : Flat cs) : cs.count ')' = 0 ∧ cs.count '(' = 0 :=
  ⟨List.count_eq_zero.2 h.2, List.count_eq_zero.2 h.1⟩

theorem Flat.mono (h : Flat cs) (hs : a ⊆ cs) : Flat a := ⟨fun hm => h.1 (hs hm), fun hm => h.2 (hs hm)⟩

/-- Two names with an opening parenthesis behind them are the same where they go on the same. -/
theorem eq_of_opened (ha : Flat a) (hb : Flat b) (h : a ++ '(' :: x = b ++ '(' :: y) : a = b ∧ x = y := by
  rcases List.append_eq_append_iff.1 h with ⟨mid, rfl, htail⟩ | ⟨mid, rfl, htail⟩
  · cases mid with
    | nil => exact ⟨(List.append_nil a).symm, (List.cons.inj htail).2⟩
    | cons c mid =>
      obtain rfl : '(' = c := (List.cons.inj htail).1
      exact absurd (List.mem_append_right a List.mem_cons_self) hb.1
  · cases mid with
    | nil => exact ⟨List.append_nil b, (List.cons.inj htail).2.symm⟩
    | cons c mid =>
      obtain rfl : '(' = c := (List.cons.inj htail).1
      exact absurd (List.mem_append_right b List.mem_cons_self) ha.1

theorem flat_of_isBlank (h : ∀ c ∈ cs, isBlank c) : Flat cs := by
  constructor
  · intro hm
    have hblank := h _ hm
    revert hblank
    decide
  · intro hm
    have hblank := h _ hm
    revert hblank
    decide

namespace Balanced

theorem of_flat (h : Flat cs) : Balanced cs where
  front := by
    intro p hp
    rw [(h.mono hp.subset).count_eq.1]
    exact Nat.zero_le _
  total := by rw [h.count_eq.1, h.count_eq.2]

theorem append (ha : Balanced a) (hb : Balanced b) : Balanced (a ++ b) where
  front := by
    intro p hp
    rcases List.prefix_or_prefix_of_prefix hp (List.prefix_append a b) with hp | ⟨q, rfl⟩
    · exact ha.front p hp
    · have hfront := hb.front q ((List.prefix_append_right_inj a).1 hp)
      rw [List.count_append, List.count_append, ha.total]
      omega
  total := by rw [List.count_append, List.count_append, ha.total, hb.total]

theorem parenthesized (h : Balanced cs) : Balanced ('(' :: cs ++ [')']) where
  front := by
    intro p hp
    rcases List.prefix_concat_iff.1 hp with rfl | hp
    · simp [h.total]
    · rcases List.prefix_cons_iff.1 hp with rfl | ⟨q, rfl, hq⟩
      · exact Nat.zero_le _
      · have hfront := h.front q hq
        rw [List.count_cons_of_ne (by decide), List.count_cons_self]
        omega
  total := by simp [h.total]

/-- Two balanced texts with a closing parenthesis behind them are the same where they go on the same. -/
theorem eq_of_closed (ha : Balanced a) (hb : Balanced b) (h : a ++ ')' :: x = b ++ ')' :: y) : a = b := by
  -- a text that goes on behind the parenthesis has closed one more there than it has opened
  have hone {a b x y mid : List Char} (ha : Balanced a) (hb : Balanced b) (heq : b = a ++ mid)
      (htail : ')' :: x = mid ++ ')' :: y) : a = b := by
    cases mid with
    | nil => rw [heq, List.append_nil]
    | cons c mid =>
      obtain rfl : ')' = c := (List.cons.inj htail).1
      have hfront := hb.front (a ++ [')']) ⟨mid, by rw [heq]; simp⟩
      rw [List.count_append, List.count_append, ha.total] at hfront
      have hlast : [')'].count ')' = 1 ∧ [')'].count '(' = 0 := by decide
      omega
  rcases List.append_eq_append_iff.1 h with ⟨mid, heq, htail⟩ | ⟨mid, heq, htail⟩
  · exact hone ha hb heq htail
  · exact (hone hb ha heq htail).symm

theorem of_append_left (hflat : Flat a) (h : Balanced (a ++ cs)) : Balanced cs where
  front := by
    intro p hp
    have hfront := h.front (a ++ p) ((List.prefix_append_right_inj a).2 hp)
    rw [List.count_append, List.count_append, hflat.count_eq.1, hflat.count_eq.2] at hfront
    omega
  total := by
    have htotal := h.total
    rw [List.count_append, List.count_append, hflat.count_eq.1, hflat.count_eq.2] at htotal
    omega

theorem of_append_right (hflat : Flat b) (h : Balanced (cs ++ b)) : Balanced cs where
  front := fun p hp => h.front p (hp.trans (List.prefix_append cs b))
  total := by
    have htotal := h.total
    rw [List.count_append, List.count_append, hflat.count_eq.1, hflat.count_eq.2] at htotal
    omega

end Balanced

/-! ### White space at the ends -/

theorem exists_eq_trimmed (cs : List Char) : ∃ a b, cs = a ++ trimmed cs ++ b ∧
    (∀ c ∈ a, isBlank c) ∧ (∀ c ∈ b, isBlank c) := by
  refine ⟨cs.takeWhile isBlank, ((cs.dropWhile isBlank).reverse.takeWhile isBlank).reverse, ?_, ?_, ?_⟩
  · rw [trimmed, List.append_assoc, ← List.reverse_append, List.takeWhile_append_dropWhile,
      List.reverse_reverse, List.takeWhile_append_dropWhile]
  · intro c hc
    exact List.mem_takeWhile_imp hc
  · intro c hc
    exact List.mem_takeWhile_imp (List.mem_reverse.1 hc)

theorem getLast?_trimmed (cs : List Char) : (trimmed cs).getLast?.any isBlank = false := by
  rw [trimmed, List.getLast?_reverse]
  cases h : ((cs.dropWhile isBlank).reverse.dropWhile isBlank).head? with
  | none => rfl
  | some c =>
    have hnot := List.head?_dropWhile_not isBlank (cs.dropWhile isBlank).reverse
    rw [h] at hnot
    simpa using hnot

theorem Balanced.trimmed (h : Balanced cs) : Balanced (trimmed cs) := by
  obtain ⟨a, b, heq, ha, hb⟩ := exists_eq_trimmed cs
  rw [heq] at h
  exact (h.of_append_right (flat_of_isBlank hb)).of_append_left (flat_of_isBlank ha)

end SchemaTypes.Text
