import Mathlib.Data.List.Basic
import SchemaTypes.Text.Blank
import SchemaTypes.Text.CaseTable

/-!
# Where the tables of case mappings lead

Runs are checked against ranges and against each other by the range into which each run leads, and what the
check finds holds of every code point (`CaseRuns.not_has_of_avoids`, `CaseRuns.find?_eq_none_of_settle`). No run
leads to a character that is no letter, and none leads to a code point that its own table moves.
-/

namespace SchemaTypes.Text

variable {c : Char} {n m : Nat} {spans : Spans} {runs : CaseRuns}

/-- A number that is no code point gives the character with code 0. -/
theorem toNat_ofNat (n : Nat) : (Char.ofNat n).toNat = n ∨ (Char.ofNat n).toNat = 0 := by
  by_cases h : n.isValidChar
  · rw [Char.ofNat, dif_pos h]
    exact .inl rfl
  · rw [Char.ofNat, dif_neg h]
    exact .inr rfl

theorem Spans.has_iff : spans.has c ↔ ∃ s ∈ spans, s.1 ≤ c.toNat ∧ c.toNat ≤ s.2 := by
  simp [has]

/-- Two closed ranges meet. -/
def rangesMeet (s t : Nat × Nat) : Bool := s.1.ble t.2 && t.1.ble s.2

/-- The range into which a run leads. -/
def runImage (r : Nat × Nat × Nat × Int) : Nat × Nat :=
  (((r.1 : Int) + r.2.2.2).toNat, ((r.2.1 : Int) + r.2.2.2).toNat)

theorem rangesMeet_of_mem {s t : Nat × Nat} (hs : s.1 ≤ n ∧ n ≤ s.2) (ht : t.1 ≤ n ∧ n ≤ t.2) :
    rangesMeet s t = true := by
  rw [rangesMeet, Bool.and_eq_true, Nat.ble_eq, Nat.ble_eq]
  omega

theorem CaseRuns.exists_of_find? (h : runs.find? n = some m) : ∃ r ∈ runs, (r.1 ≤ n ∧ n ≤ r.2.1) ∧
    (n - r.1) % r.2.2.1 = 0 ∧ m = ((n : Int) + r.2.2.2).toNat ∧ (runImage r).1 ≤ m ∧ m ≤ (runImage r).2 := by
  obtain ⟨r, hr, rfl⟩ := Option.map_eq_some_iff.1 h
  have hfound := List.find?_some hr
  simp only [Bool.and_eq_true, decide_eq_true_eq, beq_iff_eq] at hfound
  obtain ⟨⟨hfirst, hlast⟩, hstep⟩ := hfound
  refine ⟨r, List.mem_of_find?_eq_some hr, ⟨hfirst, hlast⟩, hstep, rfl, ?_⟩
  dsimp only [runImage]
  omega

/-- No run leads into the ranges. -/
def CaseRuns.avoids (runs : CaseRuns) (spans : Spans) : Bool :=
  runs.all fun r => spans.all fun s => !rangesMeet (runImage r) s

theorem CaseRuns.not_has_of_avoids (h : runs.avoids spans) (hzero : ¬ spans.has '\x00')
    (hfind : runs.find? n = some m) : ¬ spans.has (Char.ofNat m) := by
  intro hhas
  rcases toNat_ofNat m with hcode | hcode
  · obtain ⟨s, hs, hrange⟩ := Spans.has_iff.1 hhas
    obtain ⟨r, hr, -, -, -, himage⟩ := exists_of_find? hfind
    have hapart := List.all_eq_true.1 (List.all_eq_true.1 h r hr) s hs
    rw [hcode] at hrange
    rw [rangesMeet_of_mem himage hrange] at hapart
    cases hapart
  · obtain ⟨s, hs, hrange⟩ := Spans.has_iff.1 hhas
    rw [hcode] at hrange
    exact hzero (Spans.has_iff.2 ⟨s, hs, hrange⟩)

/-- The second run moves every second code point, and the first leads to others. -/
def runsAlternate (r s : Nat × Nat × Nat × Int) : Bool :=
  s.2.2.1 == 2 && (r.2.2.1 == 2 || r.1 == r.2.1) && ((r.1 : Int) + r.2.2.2 - s.1) % 2 == 1

/-- No run leads to a code point that a run moves. -/
def CaseRuns.settle (runs : CaseRuns) : Bool :=
  runs.all fun r => runs.all fun s => !rangesMeet (runImage r) (s.1, s.2.1) || runsAlternate r s

theorem CaseRuns.find?_eq_none_of_settle (h : runs.settle) (hzero : runs.find? 0 = none)
    (hfind : runs.find? n = some m) : runs.find? m = none := by
  by_cases hm : m = 0
  · rw [hm, hzero]
  rw [Option.eq_none_iff_forall_ne_some]
  intro k hk
  obtain ⟨r, hr, hrange, hstep, hto, himage⟩ := exists_of_find? hfind
  obtain ⟨s, hs, hrange', hstep', -, -⟩ := exists_of_find? hk
  -- the runs meet at `m`, so they are two that alternate, and `m` has the wrong parity for the second
  have hchecked := List.all_eq_true.1 (List.all_eq_true.1 h r hr) s hs
  rw [rangesMeet_of_mem (t := (s.1, s.2.1)) himage hrange', Bool.not_true, Bool.false_or] at hchecked
  simp only [runsAlternate, Bool.and_eq_true, Bool.or_eq_true, beq_iff_eq] at hchecked
  obtain ⟨⟨htwo, hparity⟩, hodd⟩ := hchecked
  rw [htwo] at hstep'
  rcases hparity with hparity | hparity
  · rw [hparity] at hstep
    omega
  · omega

/-! ### The two tables -/

theorem upperRuns_settle : upperRuns.settle := by decide +kernel

theorem lowerRuns_settle : lowerRuns.settle := by decide +kernel

/-- The small ASCII letters, and the characters whose upper case is more than one. -/
def raisedSpans : Spans := (0x61, 0x7a) :: expandingUpper.map fun e => (e.1, e.1)

theorem upperRuns_avoids_raised : upperRuns.avoids raisedSpans := by decide +kernel

/-- The characters with a lower case that is not in the table. -/
def loweredSpans : Spans := [(0x41, 0x5a), (0x130, 0x130), (0x3a3, 0x3a3)]

theorem lowerRuns_avoids_lowered : lowerRuns.avoids loweredSpans := by decide +kernel

/-- The ASCII characters from 1 on that are no letters, and white space. -/
def neutralSpans : Spans := (1, 0x40) :: (0x5b, 0x60) :: (0x7b, 0x7f) :: blankSpans

theorem lowerRuns_avoids : lowerRuns.avoids neutralSpans := by decide +kernel

theorem upperRuns_avoids : upperRuns.avoids neutralSpans := by decide +kernel

end SchemaTypes.Text
