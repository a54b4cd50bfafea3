import Mathlib.Data.Set.Function
import SchemaTypes.Proofs.Naming
import SchemaTypes.Proofs.Naming.Words

/-!
# From one style to the other and back

A word in Pascal case is an ASCII capital and one or more small letters or digits behind it. Where a name is
made of such words, a word starts at each of its capitals and nowhere else (`words_flatten`), and in snake
case the low lines tell the words apart again (`pascalChars_intercalate`). So on these names the two
conversions undo each other (`naming_inverse`).
-/

namespace SchemaTypes.Naming
open Text

/-- An ASCII capital and behind it one or more small letters or digits. -/
def PascalWord : List Char → Prop
  | [] => False
  | c :: cs => isCapital c ∧ cs ≠ [] ∧ ∀ x ∈ cs, isSmall x ∨ isDigit x

instance : DecidablePred PascalWord
  | [] => inferInstanceAs (Decidable False)
  | _ :: cs =>
    have : Decidable (∀ x ∈ cs, isSmall x ∨ isDigit x) := List.decidableBAll _ cs
    inferInstanceAs (Decidable (_ ∧ _))

/-- Names of words in Pascal case, one behind the other. -/
def pascalNames : Set String :=
  {name | ∃ ws : List String, (∀ w ∈ ws, PascalWord w.toList) ∧ name = String.join ws}

/-- Names of words in Pascal case, in lower case and with single low lines between them. -/
def snakeNames : Set String :=
  {name | ∃ ws : List String, (∀ w ∈ ws, PascalWord w.toList) ∧ name = "_".intercalate (ws.map lowercase)}

/-- A word that comes to a small letter or digit ends in front of the text. -/
def EndsWord (rest : List Char) : Prop := ∀ x, isSmall x ∨ isDigit x → ¬ goesOn x rest

variable {w rest cs : List Char} {c : Char} {ws : List (List Char)}

theorem PascalWord.exists_cons (h : PascalWord w) : ∃ c d ds, w = c :: d :: ds ∧ isCapital c ∧
    ∀ x ∈ d :: ds, isSmall x ∨ isDigit x := by
  cases w with
  | nil => exact h.elim
  | cons c cs =>
    obtain ⟨hc, hne, hcs⟩ := h
    cases cs with
    | nil => exact absurd rfl hne
    | cons d ds => exact ⟨c, d, ds, rfl, hc, hcs⟩

/-! ### A word in lower case -/

theorem lower_of_ascii (h : ∀ c ∈ cs, c.toNat < 128) : lower cs = cs.map small := by
  have hafter : ∀ before, lowerAfter before cs = cs.map small := by
    induction cs with
    | nil => exact fun _ => rfl
    | cons c cs ih =>
      obtain ⟨hc, hcs⟩ := List.forall_mem_cons.1 h
      intro before
      have hchar : lowerChar before c cs = [small c] := by
        rw [lowerChar_of_ascii hc]
        exact of_ascii (p := fun c => lowerChar [] c [] = [small c]) (by decide) hc
      rw [lowerAfter, hchar, ih hcs, List.singleton_append, List.map_cons]
  exact hafter []

theorem upperChar_small (hc : isCapital c) : upperChar (small c) = [c] :=
  of_isCapital (p := fun c => upperChar (small c) = [c]) (by decide) hc

theorem not_isSeparator_of_small (hc : isSmall c ∨ isDigit c) : ¬ isSeparator c :=
  of_ascii (p := fun c => isSmall c ∨ isDigit c → ¬ isSeparator c) (by decide)
    (toNat_lt_of_isAlnum (isAlnum_iff.2 (.inr hc))) hc

namespace PascalWord

theorem isAlnum (h : PascalWord w) : ∀ c ∈ w, isAlnum c := by
  obtain ⟨c, d, ds, rfl, hc, hds⟩ := h.exists_cons
  exact List.forall_mem_cons.2 ⟨isAlnum_iff.2 (.inl hc), fun x hx => isAlnum_iff.2 (.inr (hds x hx))⟩

theorem lower_eq (h : PascalWord w) : lower w = w.map small :=
  lower_of_ascii fun c hc => toNat_lt_of_isAlnum (h.isAlnum c hc)

theorem small_of_mem_lower (h : PascalWord w) (hc : c ∈ lower w) : isSmall c ∨ isDigit c := by
  rw [h.lower_eq] at hc
  obtain ⟨d, hd, rfl⟩ := List.mem_map.1 hc
  exact small_of_isAlnum (h.isAlnum d hd)

theorem lower_ne_nil (h : PascalWord w) : lower w ≠ [] := by
  obtain ⟨c, d, ds, rfl, -, -⟩ := h.exists_cons
  rw [h.lower_eq, List.map_cons]
  exact List.cons_ne_nil _ _

theorem raised_lower (h : PascalWord w) : raised (lower w) = w := by
  obtain ⟨c, d, ds, rfl, hc, hds⟩ := h.exists_cons
  rw [h.lower_eq, List.map_cons, map_small_eq_self hds, raised, upperChar_small hc, List.singleton_append]

theorem capitalized_lower (h : PascalWord w) : capitalized (lower w) = w := by
  obtain ⟨c, d, ds, rfl, hc, hds⟩ := h.exists_cons
  have htail : lower (d :: ds) = d :: ds := by
    rw [lower_of_ascii fun x hx => toNat_lt_of_isAlnum (isAlnum_iff.2 (.inr (hds x hx))), map_small_eq_self hds]
  rw [h.lower_eq, List.map_cons, map_small_eq_self hds, capitalized, upperChar_small hc, htail,
    List.singleton_append]

end PascalWord

/-! ### The words of a name -/

theorem endsWord_flatten (h : ∀ w ∈ ws, PascalWord w) : EndsWord ws.flatten := by
  intro x hx
  cases ws with
  | nil => exact Bool.false_ne_true
  | cons w ws =>
    obtain ⟨c, d, ds, rfl, hc, -⟩ := (List.forall_mem_cons.1 h).1.exists_cons
    have hstarts (after : Option Char) : startsWord x c after = true := by
      rw [startsWord, hc, Bool.true_and, Bool.or_eq_true, Bool.or_eq_true]
      exact .inl hx
    rw [List.flatten_cons, List.cons_append, goesOn, hstarts, Bool.not_true, Bool.and_false]
    exact Bool.false_ne_true

theorem words_append_of_small (hne : w ≠ []) (hw : ∀ x ∈ w, isSmall x ∨ isDigit x) (hrest : EndsWord rest) :
    words (w ++ rest) = w :: words rest := by
  induction w with
  | nil => exact absurd rfl hne
  | cons c cs ih =>
    obtain ⟨hc, hcs⟩ := List.forall_mem_cons.1 hw
    have halnum : isAlnum c := isAlnum_iff.2 (.inr hc)
    cases cs with
    | nil => rw [List.singleton_append, words_of_not_goesOn halnum (hrest c hc), small_eq_self hc]
    | cons d ds =>
      have hgoes : goesOn c (d :: ds ++ rest) := goesOn_of_small (hcs d List.mem_cons_self)
      rw [List.cons_append, words_of_goesOn halnum hgoes, ih (List.cons_ne_nil d ds) hcs, List.modifyHead_cons,
        small_eq_self hc]

theorem PascalWord.words_append (h : PascalWord w) (hrest : EndsWord rest) :
    words (w ++ rest) = lower w :: words rest := by
  rw [h.lower_eq]
  obtain ⟨c, d, ds, rfl, hc, hds⟩ := h.exists_cons
  have hgoes : goesOn c (d :: ds ++ rest) := goesOn_of_small (hds d List.mem_cons_self)
  rw [List.cons_append, words_of_goesOn (isAlnum_iff.2 (.inl hc)) hgoes,
    words_append_of_small (List.cons_ne_nil d ds) hds hrest, List.modifyHead_cons, List.map_cons,
    map_small_eq_self hds]

theorem words_flatten (h : ∀ w ∈ ws, PascalWord w) : words ws.flatten = ws.map lower := by
  induction ws with
  | nil => rfl
  | cons w ws ih =>
    obtain ⟨hw, hws⟩ := List.forall_mem_cons.1 h
    rw [List.flatten_cons, hw.words_append (endsWord_flatten hws), ih hws, List.map_cons]

/-! ### The two conversions -/

theorem splitCapitals_lower (h : PascalWord w) : splitCapitals (lower w) = [lower w] := by
  obtain ⟨c, cs, hlower⟩ := List.exists_cons_of_ne_nil h.lower_ne_nil
  rw [hlower]
  refine splitCapitals_of_not_isCapital fun x hx => not_isCapital_of_small (h.small_of_mem_lower ?_)
  rw [hlower]
  exact List.mem_cons_of_mem c hx

theorem pascalChars_intercalate (h : ∀ w ∈ ws, PascalWord w) :
    pascalChars (['_'].intercalate (ws.map lower)) = ws.flatten := by
  have hcut : splitWords isSeparator (['_'].intercalate (ws.map lower)) = ws.map lower := by
    refine splitWords_intercalate (by decide) fun v hv => ?_
    obtain ⟨w, hw, rfl⟩ := List.mem_map.1 hv
    exact ⟨(h w hw).lower_ne_nil, fun c hc => not_isSeparator_of_small ((h w hw).small_of_mem_lower hc)⟩
  have hcapitalized : (ws.map lower).flatMap capitalized = ws.flatten := by
    rw [List.flatMap_map, List.flatMap_congr fun w hw => (h w hw).capitalized_lower, List.flatMap_id']
  unfold pascalChars
  rw [hcut]
  cases ws with
  | nil => rfl
  | cons w ws =>
    cases ws with
    | nil =>
      have hw := h w (List.mem_singleton_self w)
      rw [List.map_singleton, List.flatten_singleton]
      dsimp only
      rw [splitCapitals_lower hw]
      exact hw.raised_lower
    | cons v vs => exact hcapitalized

theorem map_toList_lowercase (ws : List String) :
    (ws.map lowercase).map String.toList = (ws.map String.toList).map lower := by
  rw [List.map_map, List.map_map]
  exact List.map_congr_left fun w _ => String.toList_ofList

theorem snake_join {ws : List String} (h : ∀ w ∈ ws, PascalWord w.toList) :
    snake (String.join ws) = "_".intercalate (ws.map lowercase) := by
  have hwords : ∀ w ∈ ws.map String.toList, PascalWord w := by simpa using h
  rw [← String.toList_inj, toList_snake, String.toList_join, String.toList_intercalate, List.flatMap_def,
    words_flatten hwords, map_toList_lowercase]
  rfl

theorem pascal_intercalate {ws : List String} (h : ∀ w ∈ ws, PascalWord w.toList) :
    pascal ("_".intercalate (ws.map lowercase)) = String.join ws := by
  have hwords : ∀ w ∈ ws.map String.toList, PascalWord w := by simpa using h
  rw [← String.toList_inj, pascal, String.toList_ofList, String.toList_intercalate, map_toList_lowercase,
    String.toList_join]
  exact pascalChars_intercalate hwords

theorem snake_injOn : Set.InjOn snake pascalNames := by
  rintro _ ⟨vs, hvs, rfl⟩ _ ⟨ws, hws, rfl⟩ h
  rw [snake_join hvs, snake_join hws] at h
  rw [← pascal_intercalate hvs, h, pascal_intercalate hws]

theorem pascal_injOn : Set.InjOn pascal snakeNames := by
  rintro _ ⟨vs, hvs, rfl⟩ _ ⟨ws, hws, rfl⟩ h
  rw [pascal_intercalate hvs, pascal_intercalate hws] at h
  rw [← snake_join hvs, h, snake_join hws]

/-- On names of words in Pascal case, snake case gives the words in lower case with single low lines between
them, and Pascal case takes them back. So neither conversion lets two such names fall together. -/
theorem naming_inverse :
    (∀ ws : List String, (∀ w ∈ ws, PascalWord w.toList) →
      snake (String.join ws) = "_".intercalate (ws.map lowercase) ∧
        pascal ("_".intercalate (ws.map lowercase)) = String.join ws) ∧
      Set.InjOn snake pascalNames ∧ Set.InjOn pascal snakeNames :=
  ⟨fun _ h => ⟨snake_join h, pascal_intercalate h⟩, snake_injOn, pascal_injOn⟩

theorem naming_inverse_user :
    (∀ w ∈ ["Api2", "V1", "User"], PascalWord w.toList) ∧
      snake "Api2V1User" = "api2_v1_user" ∧ pascal "api2_v1_user" = "Api2V1User" := by
  have h : ∀ w ∈ ["Api2", "V1", "User"], PascalWord w.toList := by decide
  have hjoin : String.join ["Api2", "V1", "User"] = "Api2V1User" := by decide +kernel
  have hlower : "_".intercalate (["Api2", "V1", "User"].map lowercase) = "api2_v1_user" := by decide +kernel
  obtain ⟨hsnake, hpascal⟩ := naming_inverse.1 _ h
  rw [hjoin, hlower] at hsnake hpascal
  exact ⟨h, hsnake, hpascal⟩

end SchemaTypes.Naming
