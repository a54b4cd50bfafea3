import SchemaTypes.Naming
import SchemaTypes.Proofs.Text.Case
import SchemaTypes.Proofs.Text.Split

/-!
# Names in snake case

A name is read as a list of words: its runs of ASCII letters and digits, cut where a word starts inside a
run. The name in snake case is these words in small letters with single low lines between them
(`toList_snake`), so that two names fall together there just where their words do (`snake_inj`). Such a
text has no capital at which a word could start, and is its own snake case (`snake_of_isSnake`).
-/

namespace SchemaTypes.Naming
open Text

/-- A word starts at `c` behind a letter or digit: a capital behind a small letter or digit, or behind a
capital and in front of a small letter. -/
def startsWord (before c : Char) (after : Option Char) : Bool :=
  isCapital c && ((isSmall before || isDigit before) || (isCapital before && after.any isSmall))

/-- The word that holds `c` goes on behind it. -/
def goesOn (c : Char) : List Char → Bool
  | [] => false
  | d :: ds => isAlnum d && !startsWord c d ds.head?

/-- The words of a name, in small letters. -/
def words : List Char → List (List Char)
  | [] => []
  | c :: cs =>
    if !isAlnum c then words cs
    else if goesOn c cs then (words cs).modifyHead (small c :: ·)
    else [small c] :: words cs

/-- Runs of small letters and digits with single low lines between them. -/
def IsSnake (name : String) : Prop :=
  ∃ ws : List (List Char), (∀ w ∈ ws, w ≠ [] ∧ ∀ c ∈ w, isSmall c ∨ isDigit c) ∧
    name.toList = ['_'].intercalate ws

variable {cs : List Char} {c d : Char} {ws : List (List Char)} {name : String}

/-! ### Characters -/

theorem isAlnum_iff : isAlnum c ↔ isCapital c ∨ isSmall c ∨ isDigit c := by
  simp [isAlnum, or_assoc]

theorem toNat_lt_of_isAlnum (h : isAlnum c) : c.toNat < 128 := by
  rw [isAlnum_iff, isCapital_iff, isSmall_iff, isDigit_iff] at h
  omega

theorem small_of_isAlnum (h : isAlnum c) : isSmall (small c) ∨ isDigit (small c) :=
  of_ascii (p := fun c => isAlnum c → isSmall (small c) ∨ isDigit (small c)) (by decide)
    (toNat_lt_of_isAlnum h) h

theorem not_isCapital_of_small (h : isSmall c ∨ isDigit c) : ¬ isCapital c := by
  rw [isSmall_iff, isDigit_iff] at h
  rw [isCapital_iff]
  omega

theorem small_eq_self (h : isSmall c ∨ isDigit c) : small c = c := if_neg (not_isCapital_of_small h)

theorem map_small_eq_self (h : ∀ c ∈ cs, isSmall c ∨ isDigit c) : cs.map small = cs :=
  (List.map_congr_left fun c hc => small_eq_self (h c hc)).trans cs.map_id

/-! ### Words -/

theorem words_of_goesOn (hc : isAlnum c) (h : goesOn c cs) :
    words (c :: cs) = (words cs).modifyHead (small c :: ·) := by
  rw [words, if_neg (by simpa using hc), if_pos h]

theorem words_of_not_goesOn (hc : isAlnum c) (h : ¬ goesOn c cs) : words (c :: cs) = [small c] :: words cs := by
  rw [words, if_neg (by simpa using hc), if_neg h]

theorem goesOn_of_small (h : isSmall d ∨ isDigit d) : goesOn c (d :: cs) := by
  rw [goesOn, startsWord, Bool.eq_false_iff.2 (not_isCapital_of_small h), Bool.false_and, Bool.not_false,
    Bool.and_true]
  exact isAlnum_iff.2 (.inr h)

theorem splitWords_markWords_cons (before : Option Char) (c : Char) (cs : List Char) :
    splitWords (fun c => !isAlnum c) (markWords before (c :: cs)) =
      splitWords (fun c => !isAlnum c) (c :: markWords (some c) cs) := by
  rw [markWords]
  split
  · exact splitWords_sep (by decide)
  · rfl

theorem head?_markWords (c : Char) (cs : List Char) :
    (markWords (some c) cs).head?.any isAlnum = goesOn c cs := by
  cases cs with
  | nil => rfl
  | cons d ds =>
    have hmark : markWords (some c) (d :: ds) =
        if startsWord c d ds.head? then '_' :: d :: markWords (some d) ds else d :: markWords (some d) ds := rfl
    have hlow : isAlnum '_' = false := by decide
    rw [hmark, goesOn]
    cases startsWord c d ds.head? <;> simp [hlow]

theorem map_splitWords_markWords (before : Option Char) (cs : List Char) :
    (splitWords (fun c => !isAlnum c) (markWords before cs)).map (List.map small) = words cs := by
  induction cs generalizing before with
  | nil => rfl
  | cons c cs ih =>
    rw [splitWords_markWords_cons, words]
    by_cases hc : isAlnum c
    · have hsep : ¬ (!isAlnum c) = true := by simpa using hc
      -- the rest starts with a mark or a separator just where the word of `c` ends
      rw [if_neg hsep, ← ih (some c), ← head?_markWords, splitWords_cons_of_not hsep]
      simp only [Bool.not_not]
      split
      · cases splitWords (fun c => !isAlnum c) (markWords (some c) cs) <;> rfl
      · rfl
    · have hsep : (!isAlnum c) = true := by simpa using hc
      rw [splitWords_sep hsep, if_pos hsep, ih]

theorem mem_words {w : List Char} (h : w ∈ words cs) : w ≠ [] ∧ ∀ c ∈ w, isSmall c ∨ isDigit c := by
  rw [← map_splitWords_markWords none, List.mem_map] at h
  obtain ⟨v, hv, rfl⟩ := h
  obtain ⟨hne, hchars⟩ := mem_splitWords hv
  refine ⟨by simpa using hne, fun c hc => ?_⟩
  obtain ⟨d, hd, rfl⟩ := List.mem_map.1 hc
  exact small_of_isAlnum (by simpa using hchars d hd)

/-- A name in snake case is its words with single low lines between them. -/
theorem toList_snake (name : String) : (snake name).toList = ['_'].intercalate (words name.toList) := by
  rw [snake, String.toList_ofList, snakeChars, map_intercalate, map_splitWords_markWords]
  rfl

theorem isSnake_snake (name : String) : IsSnake (snake name) :=
  ⟨words name.toList, fun _ => mem_words, toList_snake name⟩

theorem snake_inj {a b : String} : snake a = snake b ↔ words a.toList = words b.toList := by
  have hcut (name : String) : splitWords (· = '_') (snake name).toList = words name.toList := by
    rw [toList_snake]
    refine splitWords_intercalate (by decide) fun w hw => ⟨(mem_words hw).1, ?_⟩
    rintro x hx hlow
    obtain rfl : x = '_' := of_decide_eq_true hlow
    exact absurd ((mem_words hw).2 _ hx) (by decide)
  constructor
  · intro h
    rw [← hcut a, h, hcut b]
  · intro h
    rw [← String.toList_inj, toList_snake, toList_snake, h]

/-! ### Names that are in snake case -/

theorem markWords_of_not_isCapital (h : ∀ c ∈ cs, ¬ isCapital c) (before : Option Char) :
    markWords before cs = cs := by
  induction cs generalizing before with
  | nil => rfl
  | cons c cs ih =>
    obtain ⟨hc, hcs⟩ := List.forall_mem_cons.1 h
    rw [markWords, if_neg (by simp [hc]), ih hcs]

theorem words_intercalate (h : ∀ w ∈ ws, w ≠ [] ∧ ∀ c ∈ w, isSmall c ∨ isDigit c) :
    words (['_'].intercalate ws) = ws := by
  have hcapital : ∀ c ∈ ['_'].intercalate ws, ¬ isCapital c := by
    intro c hc
    rcases eq_or_mem_of_mem_intercalate hc with rfl | ⟨w, hw, hc⟩
    · decide
    · exact not_isCapital_of_small ((h w hw).2 c hc)
  have hcut : splitWords (fun c => !isAlnum c) (['_'].intercalate ws) = ws :=
    splitWords_intercalate (by decide) fun w hw =>
      ⟨(h w hw).1, fun c hc => by simpa using isAlnum_iff.2 (.inr ((h w hw).2 c hc))⟩
  have hsmall : ∀ w ∈ ws, w.map small = id w := fun w hw => map_small_eq_self (h w hw).2
  rw [← map_splitWords_markWords none, markWords_of_not_isCapital hcapital, hcut, List.map_congr_left hsmall,
    List.map_id]

theorem snake_of_isSnake (h : IsSnake name) : snake name = name := by
  obtain ⟨ws, hws, hname⟩ := h
  rw [← String.toList_inj, toList_snake, hname, words_intercalate hws]

/-- A name in snake case is runs of small letters and digits with single low lines between them, and is not
changed by a second conversion. -/
theorem snake_normal (name : String) : IsSnake (snake name) ∧ snake (snake name) = snake name :=
  ⟨isSnake_snake name, snake_of_isSnake (isSnake_snake name)⟩

example : snake "__HTTPServer2Go é9" = "http_server2_go_9" := by decide +kernel

end SchemaTypes.Naming
