import SchemaTypes.Proofs.Text.CaseTable
import SchemaTypes.Text.Case

/-!
# What a change of case makes

A character that is no letter stands in a text in lower or upper case only where it stood before
(`mem_of_mem_lower`, `MadeFrom.eq_of_isNeutral`). Both changes settle after one step (`upperChar_of_mem_upperChar`,
`isLower_of_mem_lower`), and a text stays as it is in lower case just if each of its characters does, whatever
stands around it (`lower_append_eq_iff`).
-/

namespace SchemaTypes.Text

variable {before cs after xs ys : List Char} {c x : Char}

/-! ### ASCII -/

theorem isCapital_iff : isCapital c ↔ 65 ≤ c.toNat ∧ c.toNat ≤ 90 := by
  rw [isCapital, Bool.and_eq_true, decide_eq_true_eq, decide_eq_true_eq]
  rfl

theorem isSmall_iff : isSmall c ↔ 97 ≤ c.toNat ∧ c.toNat ≤ 122 := by
  rw [isSmall, Bool.and_eq_true, decide_eq_true_eq, decide_eq_true_eq]
  rfl

theorem isDigit_iff : isDigit c ↔ 48 ≤ c.toNat ∧ c.toNat ≤ 57 := by
  rw [isDigit, Bool.and_eq_true, decide_eq_true_eq, decide_eq_true_eq]
  rfl

theorem of_ascii {p : Char → Prop} (h : ∀ n : Fin 128, p (Char.ofNat n)) (hc : c.toNat < 128) : p c := by
  have hcode := h ⟨c.toNat, hc⟩
  rwa [Char.ofNat_toNat] at hcode

theorem of_isCapital {p : Char → Prop} (h : ∀ n : Fin 128, isCapital (Char.ofNat n) → p (Char.ofNat n))
    (hc : isCapital c) : p c := by
  have hrange := isCapital_iff.1 hc
  exact of_ascii (p := fun c => isCapital c → p c) h (by omega) hc

theorem of_isSmall {p : Char → Prop} (h : ∀ n : Fin 128, isSmall (Char.ofNat n) → p (Char.ofNat n))
    (hc : isSmall c) : p c := by
  have hrange := isSmall_iff.1 hc
  exact of_ascii (p := fun c => isSmall c → p c) h (by omega) hc

theorem toNat_lt_of_isAlpha {c : Char} (h : c.isAlpha) : c.toNat < 128 := by
  have hcode : c.toNat = c.val.toNat := rfl
  have hbound : c.val ≤ 90 ∨ c.val ≤ 122 := by
    rcases Bool.or_eq_true_iff.1 h with hupper | hlower
    · have hrange : c.val ≥ 65 ∧ c.val ≤ 90 := of_decide_eq_true hupper
      exact .inl hrange.2
    · have hrange : (decide (c.val ≥ 97) && decide (c.val ≤ 122)) = true := hlower
      exact .inr (of_decide_eq_true (Bool.and_eq_true_iff.1 hrange).2)
  rw [UInt32.le_iff_toNat_le, UInt32.le_iff_toNat_le] at hbound
  change c.val.toNat ≤ 90 ∨ c.val.toNat ≤ 122 at hbound
  omega

/-! ### Upper case -/

theorem upperChar_cases (h : x ∈ upperChar c) :
    (isSmall c ∧ x = Char.ofNat (c.toNat - 32)) ∨ (upperChar c = [c] ∧ x = c) ∨
      (∃ e ∈ expandingUpper, ∃ n ∈ e.2, x = Char.ofNat n) ∨
        ∃ m, upperRuns.find? c.toNat = some m ∧ x = Char.ofNat m := by
  by_cases hsmall : isSmall c
  · rw [upperChar, if_pos hsmall] at h
    exact .inl ⟨hsmall, List.mem_singleton.1 h⟩
  · rw [upperChar, if_neg hsmall] at h ⊢
    by_cases hascii : c.toNat < 128
    · rw [if_pos hascii] at h ⊢
      exact .inr (.inl ⟨rfl, List.mem_singleton.1 h⟩)
    · rw [if_neg hascii] at h ⊢
      cases hlookup : expandingUpper.lookup c.toNat with
      | some ns =>
        rw [hlookup] at h
        obtain ⟨l, r, hl, -⟩ := List.lookup_eq_some_iff.1 hlookup
        obtain ⟨n, hn, rfl⟩ := List.mem_map.1 h
        exact .inr (.inr (.inl ⟨(c.toNat, ns), by simp [hl], n, hn, rfl⟩))
      | none =>
        rw [hlookup] at h
        cases hfind : upperRuns.find? c.toNat with
        | some m =>
          rw [hfind] at h
          exact .inr (.inr (.inr ⟨m, rfl, List.mem_singleton.1 h⟩))
        | none =>
          rw [hfind] at h
          exact .inr (.inl ⟨rfl, List.mem_singleton.1 h⟩)

theorem upperChar_ne_nil (c : Char) : upperChar c ≠ [] := by
  unfold upperChar
  split
  · exact List.cons_ne_nil _ _
  · split
    · exact List.cons_ne_nil _ _
    · split
      next ns hlookup =>
        obtain ⟨l, r, hl, -⟩ := List.lookup_eq_some_iff.1 hlookup
        have hne : ∀ e ∈ expandingUpper, e.2 ≠ [] := by decide
        simpa using hne (c.toNat, ns) (by simp [hl])
      · exact List.cons_ne_nil _ _

theorem expandingUpper_settle : ∀ e ∈ expandingUpper, ∀ n ∈ e.2,
    upperChar (Char.ofNat n) = [Char.ofNat n] := by decide +kernel

theorem upperChar_eq_self (hraised : ¬ raisedSpans.has c) (hfind : upperRuns.find? c.toNat = none) :
    upperChar c = [c] := by
  have hsmall : ¬ isSmall c := fun h =>
    hraised (Spans.has_iff.2 ⟨(0x61, 0x7a), List.mem_cons_self, isSmall_iff.1 h⟩)
  have hlookup : expandingUpper.lookup c.toNat = none := by
    rw [List.lookup_eq_none_iff]
    intro e he
    rw [bne_iff_ne]
    intro hcode
    exact hraised (Spans.has_iff.2 ⟨(e.1, e.1), List.mem_cons_of_mem _ (List.mem_map_of_mem he),
      Nat.le_of_eq hcode.symm, Nat.le_of_eq hcode⟩)
  rw [upperChar, if_neg hsmall, hlookup, hfind]
  exact ite_self _

theorem upperChar_of_mem_upperChar (h : x ∈ upperChar c) : upperChar x = [x] := by
  rcases upperChar_cases h with ⟨hsmall, rfl⟩ | ⟨hself, rfl⟩ | ⟨e, he, n, hn, rfl⟩ | ⟨m, hfind, rfl⟩
  · exact of_isSmall (p := fun c => upperChar (Char.ofNat (c.toNat - 32)) = [Char.ofNat (c.toNat - 32)])
      (by decide) hsmall
  · exact hself
  · exact expandingUpper_settle e he n hn
  · refine upperChar_eq_self (CaseRuns.not_has_of_avoids upperRuns_avoids_raised (by decide) hfind) ?_
    rcases toNat_ofNat m with hcode | hcode <;> rw [hcode]
    · exact CaseRuns.find?_eq_none_of_settle upperRuns_settle (by decide) hfind
    · decide

/-! ### Lower case -/

/-- The character is its own lower case. -/
def IsLower (c : Char) : Prop := lowerChar [] c [] = [c]

instance : DecidablePred IsLower := fun c => inferInstanceAs (Decidable (lowerChar [] c [] = [c]))

/-- What stands around a character tells for its lower case only at a capital sigma. -/
theorem lowerChar_of_ne (h : c ≠ 'Σ') : lowerChar before c after = lowerChar [] c [] := by
  unfold lowerChar
  rw [if_neg h, if_neg h]

theorem lowerChar_of_ascii (hc : c.toNat < 128) : lowerChar before c after = lowerChar [] c [] := by
  refine lowerChar_of_ne ?_
  rintro rfl
  exact absurd hc (by decide)

theorem lowerChar_of_isLower (h : IsLower c) : lowerChar before c after = [c] := by
  by_cases hsigma : c = 'Σ'
  · subst hsigma
    exact absurd h (by decide)
  · rw [lowerChar_of_ne hsigma, h]

theorem lowerChar_ne_nil (before : List Char) (c : Char) (after : List Char) : lowerChar before c after ≠ [] := by
  unfold lowerChar
  repeat' split
  all_goals exact List.cons_ne_nil _ _

theorem lowerChar_cases (h : x ∈ lowerChar before c after) :
    (isCapital c ∧ x = Char.ofNat (c.toNat + 32)) ∨ (IsLower c ∧ x = c) ∨
      (x = 'ς' ∨ x = 'σ' ∨ x = 'i' ∨ x = Char.ofNat 0x307) ∨
        ∃ m, lowerRuns.find? c.toNat = some m ∧ x = Char.ofNat m := by
  by_cases hcapital : isCapital c
  · rw [lowerChar, if_pos hcapital] at h
    exact .inl ⟨hcapital, List.mem_singleton.1 h⟩
  by_cases hsigma : c = 'Σ'
  · subst hsigma
    rw [lowerChar, if_neg (by decide), if_neg (by decide), if_pos rfl] at h
    split at h
    · exact .inr (.inr (.inl (.inl (List.mem_singleton.1 h))))
    · exact .inr (.inr (.inl (.inr (.inl (List.mem_singleton.1 h)))))
  rw [lowerChar_of_ne hsigma] at h
  rw [IsLower]
  rw [lowerChar, if_neg hcapital, if_neg hsigma] at h ⊢
  by_cases hascii : c.toNat < 128
  · rw [if_pos hascii] at h ⊢
    exact .inr (.inl ⟨rfl, List.mem_singleton.1 h⟩)
  · rw [if_neg hascii] at h ⊢
    by_cases hdotted : c = 'İ'
    · rw [if_pos hdotted] at h
      rw [List.mem_cons, List.mem_singleton] at h
      exact .inr (.inr (.inl (.inr (.inr h))))
    · rw [if_neg hdotted] at h ⊢
      cases hfind : lowerRuns.find? c.toNat with
      | some m =>
        rw [hfind] at h
        exact .inr (.inr (.inr ⟨m, rfl, List.mem_singleton.1 h⟩))
      | none =>
        rw [hfind] at h
        exact .inr (.inl ⟨rfl, List.mem_singleton.1 h⟩)

theorem exists_of_mem_lower (h : x ∈ lower cs) : ∃ c ∈ cs, ∃ before after, x ∈ lowerChar before c after := by
  have hafter : ∀ before, x ∈ lowerAfter before cs → ∃ c ∈ cs, ∃ before after, x ∈ lowerChar before c after := by
    clear h
    induction cs with
    | nil => exact fun _ h => absurd h List.not_mem_nil
    | cons c cs ih =>
      intro before h
      rcases List.mem_append.1 h with h | h
      · exact ⟨c, List.mem_cons_self, before, cs, h⟩
      · obtain ⟨d, hd, hx⟩ := ih _ h
        exact ⟨d, List.mem_cons_of_mem c hd, hx⟩
  exact hafter [] h

theorem isLower_of_find? (hlowered : ¬ loweredSpans.has c) (hfind : lowerRuns.find? c.toNat = none) :
    IsLower c := by
  have hcapital : ¬ isCapital c := fun h =>
    hlowered (Spans.has_iff.2 ⟨(0x41, 0x5a), by decide, isCapital_iff.1 h⟩)
  have hsigma : c ≠ 'Σ' := by
    rintro rfl
    exact hlowered (by decide)
  have hdotted : c ≠ 'İ' := by
    rintro rfl
    exact hlowered (by decide)
  rw [IsLower, lowerChar, if_neg hcapital, if_neg hsigma, if_neg hdotted, hfind]
  exact ite_self _

theorem isLower_of_mem_lowerChar (h : x ∈ lowerChar before c after) : IsLower x := by
  rcases lowerChar_cases h with ⟨hcapital, rfl⟩ | ⟨hself, rfl⟩ | hletter | ⟨m, hfind, rfl⟩
  · exact of_isCapital (p := fun c => IsLower (Char.ofNat (c.toNat + 32))) (by decide) hcapital
  · exact hself
  · rcases hletter with rfl | rfl | rfl | rfl <;> decide
  · refine isLower_of_find? (CaseRuns.not_has_of_avoids lowerRuns_avoids_lowered (by decide) hfind) ?_
    rcases toNat_ofNat m with hcode | hcode <;> rw [hcode]
    · exact CaseRuns.find?_eq_none_of_settle lowerRuns_settle (by decide) hfind
    · decide

theorem isLower_of_mem_lower (h : x ∈ lower cs) : IsLower x := by
  obtain ⟨c, -, before, after, hx⟩ := exists_of_mem_lower h
  exact isLower_of_mem_lowerChar hx

theorem lowerChar_append_eq_iff : lowerChar before c after ++ xs = c :: ys ↔ IsLower c ∧ xs = ys := by
  constructor
  · intro h
    obtain ⟨d, ds, hchar⟩ := List.exists_cons_of_ne_nil (lowerChar_ne_nil before c after)
    -- a character that lower case gives is its own lower case, and here it gives `c`
    have hself : IsLower c := by
      have hmem : c ∈ lowerChar before c after := by
        rw [hchar, List.cons_append] at h
        rw [hchar, (List.cons.inj h).1]
        exact List.mem_cons_self
      exact isLower_of_mem_lowerChar hmem
    rw [lowerChar_of_isLower hself] at h
    exact ⟨hself, (List.cons.inj h).2⟩
  · rintro ⟨hself, rfl⟩
    rw [lowerChar_of_isLower hself, List.singleton_append]

theorem lower_append_eq_iff : lower cs ++ xs = cs ++ ys ↔ (∀ c ∈ cs, IsLower c) ∧ xs = ys := by
  have hafter : ∀ before, lowerAfter before cs ++ xs = cs ++ ys ↔ (∀ c ∈ cs, IsLower c) ∧ xs = ys := by
    induction cs with
    | nil => simp [lowerAfter]
    | cons c cs ih =>
      intro before
      rw [lowerAfter, List.append_assoc, List.cons_append, lowerChar_append_eq_iff, ih, List.forall_mem_cons,
        and_assoc]
  exact hafter []

/-! ### Characters that are no letters -/

/-- A character that no change of case makes. -/
def isNeutral (c : Char) : Bool := neutralSpans.has c

theorem expandingUpper_avoids : ∀ e ∈ expandingUpper, ∀ n ∈ e.2, ¬ isNeutral (Char.ofNat n) := by decide +kernel

theorem eq_of_mem_lowerChar (hx : isNeutral x) (h : x ∈ lowerChar before c after) : c = x := by
  rcases lowerChar_cases h with ⟨hcapital, rfl⟩ | ⟨-, rfl⟩ | hletter | ⟨m, hfind, rfl⟩
  · exact absurd hx
      (of_isCapital (p := fun c => ¬ isNeutral (Char.ofNat (c.toNat + 32))) (by decide) hcapital)
  · rfl
  · rcases hletter with rfl | rfl | rfl | rfl <;> exact absurd hx (by decide)
  · exact absurd hx (CaseRuns.not_has_of_avoids lowerRuns_avoids (by decide) hfind)

theorem mem_of_mem_lower (hx : isNeutral x) (h : x ∈ lower cs) : x ∈ cs := by
  obtain ⟨c, hc, before, after, hmem⟩ := exists_of_mem_lower h
  exact eq_of_mem_lowerChar hx hmem ▸ hc

theorem eq_of_mem_upperChar (hx : isNeutral x) (h : x ∈ upperChar c) : c = x := by
  rcases upperChar_cases h with ⟨hsmall, rfl⟩ | ⟨-, rfl⟩ | ⟨e, he, n, hn, rfl⟩ | ⟨m, hfind, rfl⟩
  · exact absurd hx (of_isSmall (p := fun c => ¬ isNeutral (Char.ofNat (c.toNat - 32))) (by decide) hsmall)
  · rfl
  · exact absurd hx (expandingUpper_avoids e he n hn)
  · exact absurd hx (CaseRuns.not_has_of_avoids upperRuns_avoids (by decide) hfind)

/-! ### Words in upper and lower case -/

/-- A change of case makes `x` of `c`, or leaves it as it is. -/
def MadeFrom (x c : Char) : Prop := x = c ∨ x ∈ upperChar c ∨ ∃ before after, x ∈ lowerChar before c after

theorem MadeFrom.eq_of_isNeutral (h : MadeFrom x c) (hx : isNeutral x) : c = x := by
  rcases h with rfl | h | ⟨before, after, h⟩
  · rfl
  · exact eq_of_mem_upperChar hx h
  · exact eq_of_mem_lowerChar hx h

theorem exists_madeFrom_of_mem_raised (h : x ∈ raised cs) : ∃ c ∈ cs, MadeFrom x c := by
  cases cs with
  | nil => cases h
  | cons c cs =>
    rcases List.mem_append.1 h with h | h
    · exact ⟨c, List.mem_cons_self, .inr (.inl h)⟩
    · exact ⟨x, List.mem_cons_of_mem c h, .inl rfl⟩

theorem exists_madeFrom_of_mem_capitalized (h : x ∈ capitalized cs) : ∃ c ∈ cs, MadeFrom x c := by
  cases cs with
  | nil => cases h
  | cons c cs =>
    rcases List.mem_append.1 h with h | h
    · exact ⟨c, List.mem_cons_self, .inr (.inl h)⟩
    · obtain ⟨d, hd, hx⟩ := exists_of_mem_lower h
      exact ⟨d, List.mem_cons_of_mem c hd, .inr (.inr hx)⟩

end SchemaTypes.Text
