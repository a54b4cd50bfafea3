import SchemaTypes.Text.Quoted

/-!
# Reading literals back

Between its quotes a literal spells a text: a backslash and the character behind it stand for this
character, and every other character, but for the quote, for itself (`Spells`). The scan reads what is
spelled up to the first quote that no backslash takes, and nothing else (`readQuoted_eq_some_iff`). What
`escaped` writes spells the text (`spells_escaped`), so a literal ends at its own last quote, whatever
follows, and two literals are the same only where their texts are.

A text is escaped in two passes as well, backslashes first (`escaped_eq_slashed`).
-/

namespace SchemaTypes.Text

/-- What stands between the quotes of a literal, and the text that it spells. -/
inductive Spells : List Char → List Char → Prop
  | nil : Spells [] []
  | plain {c : Char} {body text : List Char} (hslash : c ≠ '\\') (hquote : c ≠ '"') (h : Spells body text) :
      Spells (c :: body) (c :: text)
  | taken {c : Char} {body text : List Char} (h : Spells body text) : Spells ('\\' :: c :: body) (c :: text)

/-- The characters with a backslash in front of each `c`. -/
def slashed (c : Char) (cs : List Char) : List Char := cs.flatMap fun x => if x = c then ['\\', c] else [x]

variable {body cs text rest : List Char}

theorem readQuoted_of_plain {c : Char} (hslash : c ≠ '\\') (hquote : c ≠ '"') (cs : List Char) :
    readQuoted (c :: cs) = (readQuoted cs).map fun r => (c :: r.1, r.2) := by
  rw [readQuoted, if_neg hquote]
  · intro h _
    exact hslash h
  · intro _ _ h _
    exact hslash h

theorem Spells.readQuoted (h : Spells body text) (rest : List Char) :
    readQuoted (body ++ '"' :: rest) = some (text, rest) := by
  induction h with
  | nil => rfl
  | plain hslash hquote _ ih => rw [List.cons_append, readQuoted_of_plain hslash hquote, ih, Option.map_some]
  | taken _ ih => rw [List.cons_append, List.cons_append, Text.readQuoted, ih, Option.map_some]

theorem exists_spells (h : readQuoted cs = some (text, rest)) :
    ∃ body, cs = body ++ '"' :: rest ∧ Spells body text := by
  -- the scan fails at the end of the text; else it takes a character behind a backslash, ends at a quote,
  -- or takes a character for itself
  fun_induction readQuoted cs generalizing text with
  | case1 => cases h
  | case2 => cases h
  | case3 c cs ih =>
    obtain ⟨⟨read, rest⟩, hread, heq⟩ := Option.map_eq_some_iff.1 h
    cases heq
    obtain ⟨body, rfl, hbody⟩ := ih hread
    exact ⟨'\\' :: c :: body, rfl, hbody.taken⟩
  | case4 cs =>
    cases h
    exact ⟨[], rfl, .nil⟩
  | case5 c cs hlast hmore hquote ih =>
    have hslash : c ≠ '\\' := by
      cases cs with
      | nil => exact fun h => hlast h rfl
      | cons c' cs => exact fun h => hmore c' cs h rfl
    obtain ⟨⟨read, rest⟩, hread, heq⟩ := Option.map_eq_some_iff.1 h
    cases heq
    obtain ⟨body, rfl, hbody⟩ := ih hread
    exact ⟨c :: body, rfl, hbody.plain hslash hquote⟩

theorem readQuoted_eq_some_iff :
    readQuoted cs = some (text, rest) ↔ ∃ body, cs = body ++ '"' :: rest ∧ Spells body text := by
  refine ⟨exists_spells, ?_⟩
  rintro ⟨body, rfl, h⟩
  exact h.readQuoted rest

theorem spells_escaped (cs : List Char) : Spells (escaped cs) cs := by
  induction cs with
  | nil => exact .nil
  | cons c cs ih =>
    rw [escaped]
    by_cases h : c = '\\' ∨ c = '"'
    · -- the backslash that was put in front takes the character behind it
      rw [if_pos (by simpa using h)]
      exact ih.taken
    · obtain ⟨hslash, hquote⟩ := not_or.1 h
      rw [if_neg (by simpa using h)]
      exact ih.plain hslash hquote

theorem readQuoted_escaped (cs rest : List Char) : readQuoted (escaped cs ++ '"' :: rest) = some (cs, rest) :=
  (spells_escaped cs).readQuoted rest

theorem toList_quote (s : String) : (quote s).toList = '"' :: escaped s.toList ++ ['"'] := String.toList_ofList

theorem unquote?_quote (s : String) : unquote? (quote s) = some s := by
  unfold unquote?
  rw [toList_quote, List.cons_append]
  simp only [readQuoted_escaped, String.ofList_toList]

theorem quote_injective : Function.Injective quote := by
  intro s t h
  have hread := unquote?_quote s
  rw [h, unquote?_quote] at hread
  exact (Option.some.inj hread).symm

theorem slashed_cons (c x : Char) (cs : List Char) :
    slashed c (x :: cs) = (if x = c then ['\\', c] else [x]) ++ slashed c cs := rfl

theorem slashed_append (c : Char) (cs cs' : List Char) :
    slashed c (cs ++ cs') = slashed c cs ++ slashed c cs' := List.flatMap_append

/-- Escaping is two passes: the backslashes of the text first, so that those in front of quotes are not
escaped again. -/
theorem escaped_eq_slashed (cs : List Char) : escaped cs = slashed '"' (slashed '\\' cs) := by
  induction cs with
  | nil => rfl
  | cons c cs ih =>
    rw [escaped, slashed_cons, slashed_append, ← ih]
    by_cases hslash : c = '\\'
    · subst hslash
      rfl
    · rw [if_neg hslash, slashed_cons]
      by_cases hquote : c = '"'
      · subst hquote
        rfl
      · rw [if_neg (by simp [hslash, hquote]), if_neg hquote]
        rfl

/-- With quotes first, the backslash in front of a quote is escaped, and the quote ends the literal. -/
example : readQuoted (slashed '\\' (slashed '"' ['"']) ++ ['"']) = some (['\\'], ['"']) := by decide

/-- The literal is read as its text, up to its last character, and no quote in front of this one ends it. -/
theorem exists_toList_quote (s : String) : ∃ cs, (quote s).toList = '"' :: cs ∧
    cs = slashed '"' (slashed '\\' s.toList) ++ ['"'] ∧ readQuoted cs = some (s.toList, []) ∧
    ∀ text rest, (∃ body, cs = body ++ '"' :: rest ∧ Spells body text) ↔ text = s.toList ∧ rest = [] := by
  have hread := readQuoted_escaped s.toList []
  refine ⟨escaped s.toList ++ ['"'], toList_quote s, by rw [escaped_eq_slashed], hread, fun text rest => ?_⟩
  rw [← readQuoted_eq_some_iff, hread, Option.some.injEq, Prod.mk.injEq]
  exact and_congr eq_comm eq_comm

end SchemaTypes.Text
