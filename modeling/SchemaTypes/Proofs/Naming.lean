import SchemaTypes.Naming
import SchemaTypes.Proofs.Text.Case
import SchemaTypes.Proofs.Text.Split

/-!
# Names in Pascal case

Words hold no separator and a change of case makes none, so a name in Pascal case has none
(`not_isSeparator_of_mem_pascalChars`). It starts with the upper case of the name's first character
(`exists_pascalChars_cons`). Where there is a name, a suffix stands behind it (`pascalWith_of_ne`).
-/

namespace SchemaTypes.Naming
open Text

variable {w : List Char} {name suffix : String}

theorem splitCapitals_cons (c : Char) (cs : List Char) : splitCapitals (c :: cs) =
    match cs, splitCapitals cs with
      | d :: _, w :: ws => if isCapital d then [c] :: w :: ws else (c :: w) :: ws
      | _, ws => [c] :: ws := rfl

/-- A part of a word: an ASCII capital and no other behind it. -/
def CapitalPart (v : List Char) : Prop := ∃ d u, v = d :: u ∧ isCapital d ∧ ∀ x ∈ u, ¬ isCapital x

/-- The first part has the first character and no capital behind it, and each other part starts with a capital. -/
theorem exists_splitCapitals_cons (c : Char) (cs : List Char) :
    ∃ w ws, splitCapitals (c :: cs) = (c :: w) :: ws ∧ cs = w ++ ws.flatten ∧ (∀ x ∈ w, ¬ isCapital x) ∧
      ∀ v ∈ ws, CapitalPart v := by
  induction cs generalizing c with
  | nil => exact ⟨[], [], rfl, rfl, List.forall_mem_nil _, List.forall_mem_nil _⟩
  | cons d ds ih =>
    obtain ⟨w, ws, hsplit, rfl, hw, hws⟩ := ih d
    rw [splitCapitals_cons, hsplit]
    by_cases hd : isCapital d
    · exact ⟨[], (d :: w) :: ws, if_pos hd, rfl, List.forall_mem_nil _,
        List.forall_mem_cons.2 ⟨⟨d, w, rfl, hd, hw⟩, hws⟩⟩
    · exact ⟨d :: w, ws, if_neg hd, rfl, List.forall_mem_cons.2 ⟨hd, hw⟩, hws⟩

theorem flatten_splitCapitals (w : List Char) : (splitCapitals w).flatten = w := by
  cases w with
  | nil => rfl
  | cons c cs =>
    obtain ⟨v, vs, hsplit, hcs, -⟩ := exists_splitCapitals_cons c cs
    rw [hsplit, List.flatten_cons, List.cons_append, ← hcs]

theorem mem_of_mem_splitCapitals {v : List Char} {c : Char} (hv : v ∈ splitCapitals w) (hc : c ∈ v) :
    c ∈ w :=
  flatten_splitCapitals w ▸ List.mem_flatten.2 ⟨v, hv, hc⟩

theorem splitCapitals_of_not_isCapital {c : Char} {cs : List Char} (h : ∀ x ∈ cs, ¬ isCapital x) :
    splitCapitals (c :: cs) = [c :: cs] := by
  obtain ⟨v, vs, hsplit, hcs, -, hvs⟩ := exists_splitCapitals_cons c cs
  cases vs with
  | nil => rw [hsplit, hcs, List.flatten_nil, List.append_nil]
  | cons u us =>
    obtain ⟨d, t, rfl, hd, -⟩ := hvs u List.mem_cons_self
    exact absurd hd (h d (by simp [hcs]))

theorem isNeutral_of_isSeparator {c : Char} (h : isSeparator c) : isNeutral c := by
  rw [isSeparator, Bool.or_eq_true, Bool.or_eq_true, decide_eq_true_eq, decide_eq_true_eq] at h
  rcases h with (rfl | rfl) | hblank
  · decide
  · decide
  · obtain ⟨s, hs, hrange⟩ := Spans.has_iff.1 hblank
    exact Spans.has_iff.2 ⟨s, by simp [neutralSpans, hs], hrange⟩

/-- Each character of a name in Pascal case comes from one of the name that is no separator. -/
theorem exists_madeFrom_of_mem_pascalChars {cs : List Char} {x : Char} (h : x ∈ pascalChars cs) :
    ∃ c ∈ cs, ¬ isSeparator c ∧ MadeFrom x c := by
  have hword : ∃ w ∈ splitWords isSeparator cs, ∃ c ∈ w, MadeFrom x c := by
    unfold pascalChars at h
    split at h
    · cases h
    next word heq =>
      refine ⟨word, heq ▸ List.mem_singleton_self word, ?_⟩
      split at h
      next u v us hcapitals =>
        obtain ⟨part, hpart, h⟩ := List.mem_flatMap.1 h
        obtain ⟨c, hc, hx⟩ := exists_madeFrom_of_mem_capitalized h
        rw [← hcapitals] at hpart
        exact ⟨c, mem_of_mem_splitCapitals hpart hc, hx⟩
      · exact exists_madeFrom_of_mem_raised h
    next words _ _ =>
      obtain ⟨w, hw, h⟩ := List.mem_flatMap.1 h
      exact ⟨w, hw, exists_madeFrom_of_mem_capitalized h⟩
  obtain ⟨w, hw, c, hc, hx⟩ := hword
  obtain ⟨hmem, hsep⟩ := (mem_splitWords_iff cs).1 ⟨w, hw, hc⟩
  exact ⟨c, hmem, hsep, hx⟩

theorem not_isSeparator_of_mem_pascalChars {cs : List Char} {x : Char} (h : x ∈ pascalChars cs) :
    ¬ isSeparator x := by
  intro hx
  obtain ⟨c, -, hc, hmade⟩ := exists_madeFrom_of_mem_pascalChars h
  obtain rfl := hmade.eq_of_isNeutral (isNeutral_of_isSeparator hx)
  exact hc hx

theorem lowLine_not_mem_pascal (name : String) : '_' ∉ (pascal name).toList := by
  rw [pascal, String.toList_ofList]
  exact fun h => not_isSeparator_of_mem_pascalChars h (by decide)

/-! ### The first character -/

theorem exists_pascalChars_cons {c : Char} (hc : ¬ isSeparator c) (cs : List Char) :
    ∃ rest, pascalChars (c :: cs) = upperChar c ++ rest := by
  have hcapitalized (w : List Char) (ws : List (List Char)) :
      ∃ rest, ((c :: w) :: ws).flatMap capitalized = upperChar c ++ rest := by
    rw [List.flatMap_cons]
    exact ⟨lower w ++ ws.flatMap capitalized, List.append_assoc ..⟩
  obtain ⟨w, ws, hwords⟩ := exists_splitWords_cons hc cs
  unfold pascalChars
  rw [hwords]
  cases ws with
  | cons v vs => exact hcapitalized w (v :: vs)
  | nil =>
    obtain ⟨u, us, hcapitals, -⟩ := exists_splitCapitals_cons c w
    dsimp only
    rw [hcapitals]
    cases us with
    | nil => exact ⟨w, rfl⟩
    | cons v vs => exact hcapitalized u (v :: vs)

theorem isAlpha_head?_pascal (h : name.toList.head?.any Char.isAlpha) :
    (pascal name).toList.head?.any Char.isAlpha := by
  obtain ⟨c, hc, hletter⟩ := (Option.any_eq_true _ _).1 h
  obtain ⟨cs, hcs⟩ := List.head?_eq_some_iff.1 hc
  obtain ⟨hseparator, hupper⟩ : ¬ isSeparator c ∧ (upperChar c).head?.any Char.isAlpha :=
    of_ascii (p := fun c => c.isAlpha → ¬ isSeparator c ∧ (upperChar c).head?.any Char.isAlpha) (by decide)
      (toNat_lt_of_isAlpha hletter) hletter
  obtain ⟨rest, hrest⟩ := exists_pascalChars_cons hseparator cs
  rw [pascal, String.toList_ofList, hcs, hrest, List.head?_append]
  cases hhead : (upperChar c).head? with
  | none => rw [hhead] at hupper; cases hupper
  | some x => rwa [hhead] at hupper

/-! ### Suffixes -/

theorem pascalWith_of_ne (h : name ≠ "") : pascalWith suffix name = pascal name ++ suffix := if_neg h

end SchemaTypes.Naming
