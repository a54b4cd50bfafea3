import SchemaTypes.Text.WordTable

/-!
# Words

A word character is a letter or numeral of any script, or the low line. `occursAsWord` looks for a
needle that stands between word boundaries: places where a word character meets a character of
another kind, or the end of the text.
-/

namespace SchemaTypes.Text

/-- A letter or numeral of any script, or the low line. -/
def isWord (c : Char) : Bool :=
  if c.toNat < 128 then c.isAlphanum || c == '_' else wordSpans.has c

/-- Exactly one of the two neighbours of a place is a word character; the end of a text is none. -/
def isBoundary (left right : Option Char) : Bool :=
  left.any isWord != right.any isWord

/-- If `cs` starts with `needle`, what follows it. -/
def dropFront? : (needle cs : List Char) → Option (List Char)
  | [], cs => some cs
  | _ :: _, [] => none
  | n :: needle, c :: cs => if n = c then dropFront? needle cs else none

theorem dropFront?_eq_some {needle cs rest : List Char} :
    dropFront? needle cs = some rest ↔ cs = needle ++ rest := by
  induction needle generalizing cs with
  | nil => simp [dropFront?]
  | cons n needle ih =>
    cases cs with
    | nil => simp [dropFront?]
    | cons c cs =>
      by_cases h : n = c
      · subst h; simp [dropFront?, ih]
      · simp [dropFront?, h, Ne.symm h]

/-- `part` stands somewhere in `cs`. -/
def occurs (part : List Char) : List Char → Bool
  | [] => part.isEmpty
  | c :: cs => (dropFront? part (c :: cs)).isSome || occurs part cs

/-- `needle` stands at the front of `cs` between boundaries, when `left` is the character before. -/
def wordAtFront (needle : List Char) (left : Option Char) (cs : List Char) : Bool :=
  match dropFront? needle cs with
  | none => false
  | some rest =>
    isBoundary left cs.head? && isBoundary (needle.getLast?.or left) rest.head?

/-- `needle` stands somewhere in `cs` between boundaries, when `left` is the character before. -/
def wordWithin (needle : List Char) (left : Option Char) : List Char → Bool
  | [] => wordAtFront needle left []
  | c :: cs => wordAtFront needle left (c :: cs) || wordWithin needle (some c) cs

/-- `needle` stands somewhere in `text` between word boundaries. -/
def occursAsWord (needle text : String) : Bool := wordWithin needle.toList none text.toList

end SchemaTypes.Text
