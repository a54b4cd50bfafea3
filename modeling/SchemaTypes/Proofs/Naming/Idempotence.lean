import SchemaTypes.Proofs.Naming

/-!
# Pascal case a second time

A name in Pascal case holds no separator. A second conversion can only cut it before ASCII capitals, and where
it does so, what stands between the capitals is put in lower case, which is that of Unicode. So it changes
nothing just if there is no cut, or nothing to put in lower case (`pascal_pascal_iff`), and it does change the
name in Pascal case of `a_é_b` (`pascal_pascal_ne`).
-/

namespace SchemaTypes.Naming
open Text

variable {c : Char} {cs rest w v : List Char} {ws vs : List (List Char)} {name : String}

/-! ### The first character -/

theorem exists_pascalChars_eq (cs : List Char) :
    pascalChars cs = [] ∨ ∃ c rest, pascalChars cs = upperChar c ++ rest := by
  induction cs with
  | nil => exact .inl rfl
  | cons c cs ih =>
    by_cases hc : isSeparator c
    · have hdrop : pascalChars (c :: cs) = pascalChars cs := by
        unfold pascalChars
        rw [splitWords_sep hc]
      rwa [hdrop]
    · exact .inr ⟨c, exists_pascalChars_cons hc cs⟩

theorem upperChar_of_pascalChars (h : pascalChars cs = c :: rest) : upperChar c = [c] := by
  rcases exists_pascalChars_eq cs with hnil | ⟨d, ds, hcons⟩
  · rw [hnil] at h
    cases h
  · obtain ⟨x, xs, hupper⟩ := List.exists_cons_of_ne_nil (upperChar_ne_nil d)
    rw [hcons, hupper, List.cons_append, List.cons.injEq] at h
    have hmem : c ∈ upperChar d := by
      rw [hupper, h.1]
      exact List.mem_cons_self
    exact upperChar_of_mem_upperChar hmem

/-! ### Cuts before capitals -/

theorem upperChar_of_isCapital (hc : isCapital c) : upperChar c = [c] :=
  of_isCapital (p := fun c => upperChar c = [c]) (by decide) hc

theorem forall_isLower_iff (h : ∀ x ∈ w, ¬ isCapital x) :
    (∀ x ∈ w, IsLower x) ↔ ∀ x ∈ w, isCapital x ∨ IsLower x :=
  forall₂_congr fun x hx => (or_iff_right (h x hx)).symm

/-- Parts that start with their only capital stay as they are just if all else in them is in lower case. -/
theorem flatMap_capitalized_eq_iff (h : ∀ v ∈ ws, CapitalPart v) :
    ws.flatMap capitalized = ws.flatten ↔ ∀ x ∈ ws.flatten, isCapital x ∨ IsLower x := by
  induction ws with
  | nil => simp
  | cons v vs ih =>
    obtain ⟨⟨d, u, rfl, hd, hu⟩, hvs⟩ := List.forall_mem_cons.1 h
    have hhead : isCapital d ∨ IsLower d := .inl hd
    rw [List.flatMap_cons, List.flatten_cons, capitalized, upperChar_of_isCapital hd, List.singleton_append,
      List.cons_append, List.cons_append, List.cons.injEq, and_iff_right rfl, lower_append_eq_iff, ih hvs,
      forall_isLower_iff hu, List.forall_mem_cons, List.forall_mem_append, and_iff_right hhead]

theorem isCapital_or_isLower_of_mem_flatMap (h : ∀ v ∈ ws, CapitalPart v) :
    ∀ x ∈ ws.flatMap capitalized, isCapital x ∨ IsLower x := by
  intro x hx
  obtain ⟨v, hv, hx⟩ := List.mem_flatMap.1 hx
  obtain ⟨d, u, rfl, hd, -⟩ := h v hv
  rw [capitalized, upperChar_of_isCapital hd, List.singleton_append] at hx
  rcases List.mem_cons.1 hx with rfl | hx
  · exact .inl hd
  · exact .inr (isLower_of_mem_lower hx)

theorem pascalChars_of_uncut (hsep : ∀ x ∈ c :: cs, ¬ isSeparator x) (hc : upperChar c = [c])
    (hsplit : splitCapitals (c :: cs) = [c :: cs]) : pascalChars (c :: cs) = c :: cs := by
  unfold pascalChars
  rw [splitWords_singleton hsep (List.cons_ne_nil c cs)]
  dsimp only
  rw [hsplit, raised, hc, List.singleton_append]

theorem pascalChars_of_cut (hsep : ∀ x ∈ c :: cs, ¬ isSeparator x) (hc : upperChar c = [c])
    (hsplit : splitCapitals (c :: cs) = (c :: w) :: v :: vs) :
    pascalChars (c :: cs) = c :: (lower w ++ (v :: vs).flatMap capitalized) := by
  unfold pascalChars
  rw [splitWords_singleton hsep (List.cons_ne_nil c cs)]
  dsimp only
  rw [hsplit]
  dsimp only
  rw [List.flatMap_cons, capitalized, hc, List.singleton_append, List.cons_append]

/-! ### The second conversion -/

theorem pascalChars_eq_self_iff (hsep : ∀ x ∈ c :: cs, ¬ isSeparator x) (hc : upperChar c = [c]) :
    pascalChars (c :: cs) = c :: cs ↔
      (∀ x ∈ cs, ¬ isCapital x) ∨ ∀ x ∈ cs, isCapital x ∨ IsLower x := by
  obtain ⟨w, ws, hsplit, hcs, hw, hws⟩ := exists_splitCapitals_cons c cs
  cases ws with
  | nil =>
    rw [List.flatten_nil, List.append_nil] at hcs
    subst hcs
    exact iff_of_true (pascalChars_of_uncut hsep hc hsplit) (.inl hw)
  | cons v vs =>
    obtain ⟨d, u, rfl, hd, hu⟩ := hws v List.mem_cons_self
    -- the second part starts with a capital behind the first character
    have hcut : ¬ ∀ x ∈ cs, ¬ isCapital x := fun hall => hall d (by simp [hcs]) hd
    rw [pascalChars_of_cut hsep hc hsplit, or_iff_right hcut, hcs, List.cons.injEq, and_iff_right rfl,
      lower_append_eq_iff, flatMap_capitalized_eq_iff hws, forall_isLower_iff hw, List.forall_mem_append]

theorem pascalChars_pascalChars_iff (cs : List Char) :
    pascalChars (pascalChars cs) = pascalChars cs ↔
      (∀ x ∈ (pascalChars cs).tail, ¬ isCapital x) ∨ ∀ x ∈ (pascalChars cs).tail, isCapital x ∨ IsLower x := by
  have hsep : ∀ x ∈ pascalChars cs, ¬ isSeparator x := fun x => not_isSeparator_of_mem_pascalChars
  cases hcs : pascalChars cs with
  | nil => exact iff_of_true rfl (.inl (List.forall_mem_nil _))
  | cons c rest => exact pascalChars_eq_self_iff (hcs ▸ hsep) (upperChar_of_pascalChars hcs)

/-- The second conversion leaves nothing to put in lower case behind a cut. -/
theorem pascalChars_settle (cs : List Char) :
    pascalChars (pascalChars (pascalChars cs)) = pascalChars (pascalChars cs) := by
  have hsep : ∀ x ∈ pascalChars cs, ¬ isSeparator x := fun x => not_isSeparator_of_mem_pascalChars
  cases hcs : pascalChars cs with
  | nil => rfl
  | cons c rest =>
    rw [hcs] at hsep
    have hc := upperChar_of_pascalChars hcs
    obtain ⟨w, ws, hsplit, hrest, -, hws⟩ := exists_splitCapitals_cons c rest
    cases ws with
    | nil =>
      rw [List.flatten_nil, List.append_nil] at hrest
      subst hrest
      rw [pascalChars_of_uncut hsep hc hsplit, pascalChars_of_uncut hsep hc hsplit]
    | cons v vs =>
      -- what is cut holds only capitals and what lower case has given
      rw [pascalChars_pascalChars_iff, pascalChars_of_cut hsep hc hsplit]
      refine .inr fun x hx => ?_
      rcases List.mem_append.1 hx with hx | hx
      · exact .inr (isLower_of_mem_lower hx)
      · exact isCapital_or_isLower_of_mem_flatMap hws x hx

/-- A second conversion to Pascal case changes nothing just if there is no ASCII capital behind the first
character, or everything else there is its own lower case. A third one changes nothing. -/
theorem pascal_pascal_iff (name : String) :
    (pascal (pascal name) = pascal name ↔
      (∀ c ∈ (pascal name).toList.tail, ¬ isCapital c) ∨
        ∀ c ∈ (pascal name).toList.tail, isCapital c ∨ IsLower c) ∧
      pascal (pascal (pascal name)) = pascal (pascal name) := by
  simp only [pascal, String.toList_ofList, String.ofList_inj]
  exact ⟨pascalChars_pascalChars_iff name.toList, pascalChars_settle name.toList⟩

/-- The second word starts with a capital that is no ASCII letter, so a second conversion takes it for a part of
the first word. -/
theorem pascal_pascal_ne : pascal "a_é_b" = "AÉB" ∧ pascal "AÉB" = "AéB" ∧
    pascal (pascal "a_é_b") ≠ pascal "a_é_b" := by
  decide +kernel

end SchemaTypes.Naming
