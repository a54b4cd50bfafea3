import SchemaTypes.Failure

/-!
# Places in a YAML text

A cursor is what is left of a text together with the place that reading has reached. The functions
here move it over characters, blanks, comments and line breaks.
-/

namespace SchemaTypes.Yaml

/-- Why a text has no value. -/
inductive Error where
  /-- The text is not YAML, or uses what documents may not use. -/
  | malformed
  /-- A scalar does not fit the tag that it has. -/
  | mishap (m : Mishap)
deriving Repr, DecidableEq

def isBreak (c : Char) : Bool :=
  c = '\n' || c = '\r' || c = '\x85' || c = '\u2028' || c = '\u2029'

/-- The end of the text, a blank or a line break. -/
def endsToken : Option Char → Bool
  | none => true
  | some c => c = ' ' || c = '\t' || isBreak c

/-- The end of the text, a space or a line break. -/
def endsWord : Option Char → Bool
  | none => true
  | some c => c = ' ' || isBreak c

/-- The end of the text or a line break. -/
def endsLine : Option Char → Bool
  | none => true
  | some c => isBreak c

/-- The characters start with three points or hyphens that stand alone. -/
def startsMark (mark : Char) : List Char → Bool
  | a :: b :: c :: rest => a = mark && b = mark && c = mark && endsToken rest.head?
  | _ => false

/-- The characters start with the mark of a document's start or end. -/
def startsDocumentMark (cs : List Char) : Bool := startsMark '-' cs || startsMark '.' cs

/-- What is left of a text, and the place of its first character. -/
structure Cursor where
  chars : List Char
  index : Nat := 0
  line : Nat := 0
  column : Nat := 0
deriving Repr

namespace Cursor

def peek (c : Cursor) : Option Char := c.chars.head?

/-- The character `n` places on. -/
def ahead (c : Cursor) (n : Nat) : Option Char := c.chars[n]?

/-- The cursor behind the character at it. A byte order mark takes no column. -/
def next (c : Cursor) : Cursor :=
  match c.chars with
  | [] => c
  | x :: rest =>
    if isBreak x && !(x = '\r' && rest.head? = some '\n') then ⟨rest, c.index + 1, c.line + 1, 0⟩
    else ⟨rest, c.index + 1, c.line, if x = '\uFEFF' then c.column else c.column + 1⟩

/-- The cursor `n` characters on. -/
def skip (c : Cursor) : (n : Nat) → Cursor
  | 0 => c
  | n + 1 => c.next.skip n

/-- The characters in front that `p` holds of, and the cursor behind them. -/
def span (c : Cursor) (p : Char → Bool) : List Char × Cursor :=
  let taken := c.chars.takeWhile p
  (taken, c.skip taken.length)

def skipSpaces (c : Cursor) : Cursor := (c.span (· = ' ')).2

/-- The cursor behind a comment, if one starts here. -/
def skipComment (c : Cursor) : Cursor :=
  if c.peek = some '#' then (c.span fun x => !isBreak x).2 else c

/-- A line break, as the text that it stands for, and the cursor behind it. -/
def break? (c : Cursor) : Option (Char × Cursor) :=
  match c.chars with
  | '\r' :: '\n' :: _ => some ('\n', c.skip 2)
  | x :: _ =>
    if x = '\u2028' || x = '\u2029' then some (x, c.next)
    else if isBreak x then some ('\n', c.next)
    else none
  | [] => none

/-- The cursor behind a line break, if one is here. -/
def skipBreak (c : Cursor) : Cursor := (c.break?.map (·.2)).getD c

/-- The cursor behind the blanks, the comment and the break that may end a line, and nothing else. -/
def endLine (c : Cursor) : Except Error Cursor :=
  let c := c.skipSpaces.skipComment
  if endsLine c.peek then .ok c.skipBreak else .error .malformed

/-- The cursor at the next token, behind blanks, comments and line breaks, and whether a line ended
on the way. -/
def toToken (c : Cursor) : (fuel : Nat) → Cursor × Bool
  | 0 => (c, false)
  | fuel + 1 =>
    let c := c.skipSpaces.skipComment
    match c.break? with
    | none => (c, false)
    | some (_, c) => ((c.toToken fuel).1, true)

end Cursor

end SchemaTypes.Yaml
