import SchemaTypes.Json.Reading
import SchemaTypes.Yaml.Cursor

/-!
# Scalars in a YAML text

The three ways to write a scalar: between quotes, as a block of lines, or plain. Each reader gives
the text of the scalar and the cursor behind it. Lines are folded: a line break between two lines
reads as a space, and an empty line as a line break.
-/

namespace SchemaTypes.Yaml

open Cursor

/-! ### Quoted scalars -/

/-- The character behind a backslash, for the escapes of one character. -/
def simpleEscape? : Char → Option Char
  | '0' => some '\x00'
  | 'a' => some '\x07'
  | 'b' => some '\x08'
  | 't' => some '\t'
  | '\t' => some '\t'
  | 'n' => some '\n'
  | 'v' => some '\x0b'
  | 'f' => some '\x0c'
  | 'r' => some '\r'
  | 'e' => some '\x1b'
  | ' ' => some ' '
  | '"' => some '"'
  | '\\' => some '\\'
  | '/' => some '/'
  | 'N' => some '\x85'
  | '_' => some '\xa0'
  | 'L' => some '\u2028'
  | 'P' => some '\u2029'
  | _ => none

/-- The number of digits that an escape has. -/
def escapeWidth? : Char → Option Nat
  | 'x' => some 2
  | 'u' => some 4
  | 'U' => some 8
  | _ => none

/-- The value of `width` hexadecimal digits in front. -/
def hexNumber? (width : Nat) (cs : List Char) : Option Nat :=
  let ds := cs.take width
  if ds.length < width then none
  else (ds.mapM Json.hexValue?).map fun vs => vs.foldl (fun n v => 16 * n + v) 0

/-- The character of a code point. Half of a character is a value that cannot be used here. -/
def charOf (n : Nat) : Except Error Char :=
  if 0x7FFFFFFF < n then .error (.mishap .tooLarge)
  else if 0x10FFFF < n then .error (.mishap .badValue)
  else if 0xD800 ≤ n && n < 0xE000 then .error (.mishap .badValue)
  else .ok (Char.ofNat n)

/-- Blank lines inside a quoted scalar: their breaks, and the cursor at the next line's text. -/
def quotedBreaks (c : Cursor) : (fuel : Nat) → Except Error (List Char × Cursor)
  | 0 => .error .malformed
  | fuel + 1 =>
    if startsDocumentMark c.chars then .error .malformed
    else
      let c := (c.span fun x => x = ' ' || x = '\t').2
      match c.break? with
      | none => .ok ([], c)
      | some (b, c) => do
        let (bs, c) ← quotedBreaks c fuel
        return (b :: bs, c)

/-- White space inside a quoted scalar: a break reads as a space unless blank lines follow. -/
def quotedSpace (c : Cursor) (fuel : Nat) : Except Error (List Char × Cursor) :=
  let (blanks, c) := c.span fun x => x = ' ' || x = '\t'
  match c.peek, c.break? with
  | none, _ => .error .malformed
  | some _, none => .ok (blanks, c)
  | some _, some (b, c) => do
    let (bs, c) ← quotedBreaks c fuel
    let first := if b ≠ '\n' then [b] else if bs.isEmpty then [' '] else []
    return (first ++ bs, c)

/-- The rest of a quoted scalar, up to its closing quote. -/
def quotedRest (quote : Char) (c : Cursor) : (fuel : Nat) → Except Error (List Char × Cursor)
  | 0 => .error .malformed
  | fuel + 1 =>
    let more (read : List Char) (c : Cursor) : Except Error (List Char × Cursor) := do
      let (rest, c) ← quotedRest quote c fuel
      return (read ++ rest, c)
    match c.chars with
    | [] => .error .malformed
    | x :: rest =>
      if x = quote then
        if quote = '\'' && rest.head? = some '\'' then more ['\''] (c.skip 2) else .ok ([], c.next)
      else if x = '\\' && quote = '"' then
        match rest with
        | [] => .error .malformed
        | e :: digits => match simpleEscape? e, escapeWidth? e with
          | some r, _ => more [r] (c.skip 2)
          | none, some width => match hexNumber? width digits with
            | none => .error .malformed
            | some n => do more [← charOf n] (c.skip (2 + width))
          | none, none => match c.next.break? with
            | none => .error .malformed
            | some (_, c) => do
              let (bs, c) ← quotedBreaks c fuel
              more bs c
      else if x = ' ' || x = '\t' || isBreak x then do
        let (space, c) ← quotedSpace c fuel
        more space c
      else more [x] c.next

def quoted (quote : Char) (c : Cursor) : Except Error (String × Cursor) := do
  let (cs, after) ← quotedRest quote c.next (c.chars.length + 1)
  return (String.ofList cs, after)

/-! ### Plain scalars -/

/-- A plain scalar ends before this character, given the one behind it. -/
def endsPlain (inFlow : Bool) (x : Char) (following : Option Char) : Bool :=
  endsToken (some x) ||
  (x = ':' && (endsToken following || (inFlow && following.any fun y => ",[]\x7b\x7d".contains y)))
  || (inFlow && ",?[]\x7b\x7d".contains x)

def plainLength (inFlow : Bool) : List Char → Nat
  | [] => 0
  | x :: rest => if endsPlain inFlow x rest.head? then 0 else plainLength inFlow rest + 1

/-- What stands between two lines of a plain scalar. -/
structure Gap where
  /-- The text that it reads as. -/
  text : List Char
  /-- A line ended in it. -/
  broken : Bool
  cursor : Cursor

/-- Blank lines behind a break of a plain scalar, unless a document ends there. -/
def plainBreaks (c : Cursor) : (fuel : Nat) → Option (List Char) × Cursor
  | 0 => (none, c)
  | fuel + 1 =>
    if startsDocumentMark c.chars then (none, c)
    else
      let c := c.skipSpaces
      match c.break? with
      | none => (some [], c)
      | some (b, c) =>
        let (bs, c) := plainBreaks c fuel
        (bs.map (b :: ·), c)

/-- White space behind a piece of a plain scalar. -/
def plainGap (c : Cursor) (fuel : Nat) : Gap :=
  let (blanks, c) := c.span (· = ' ')
  match c.break? with
  | none => ⟨blanks, false, c⟩
  | some (b, c) => match plainBreaks c fuel with
    | (none, c) => ⟨[], true, c⟩
    | (some bs, c) =>
      ⟨(if b ≠ '\n' then [b] else if bs.isEmpty then [' '] else []) ++ bs, true, c⟩

/-- The pieces of a plain scalar from here on, where `space` stands before the first of them. Gives
whether a line ended behind the last piece. -/
def plainRest (inFlow : Bool) (indent : Nat) (space : List Char) (broken : Bool) (c : Cursor) :
    (fuel : Nat) → List Char × Bool × Cursor
  | 0 => ([], broken, c)
  | fuel + 1 =>
    let n := if c.peek = some '#' then 0 else plainLength inFlow c.chars
    if n = 0 then ([], broken, c)
    else
      let piece := space ++ c.chars.take n
      let gap := plainGap (c.skip n) fuel
      if gap.text.isEmpty || gap.cursor.peek = some '#' ||
          (!inFlow && gap.cursor.column < indent) then (piece, gap.broken, gap.cursor)
      else
        let (rest, broken, c) := plainRest inFlow indent gap.text gap.broken gap.cursor fuel
        (piece ++ rest, broken, c)

/-- A plain scalar whose lines stand at `indent` or further right, and whether a line ended behind
it. -/
def plain (inFlow : Bool) (indent : Nat) (c : Cursor) : String × Bool × Cursor :=
  let (cs, broken, after) := plainRest inFlow indent [] false c (c.chars.length + 1)
  (String.ofList cs, broken, after)

/-! ### Block scalars -/

/-- What becomes of the line breaks at the end of a block scalar. -/
inductive Chomping where
  | clip
  | strip
  | keep
deriving Repr, DecidableEq

/-- The chomping that a sign asks for. -/
def chompingOf? : Option Char → Option Chomping
  | some '+' => some .keep
  | some '-' => some .strip
  | _ => none

/-- The indentation that a digit asks for; zero is none. -/
def indentOf? (o : Option Char) : Except Error (Option Nat) :=
  match o with
  | some d =>
    if d = '0' then .error .malformed
    else if d.isDigit then .ok (some (d.toNat - 48)) else .ok none
  | none => .ok none

/-- The indicators behind the sign of a block scalar, in either order. -/
def blockIndicators (c : Cursor) : Except Error (Chomping × Option Nat × Cursor) := do
  let (chomping, indent, c) ← match chompingOf? c.peek with
    | some k => do
      match ← indentOf? c.next.peek with
      | some n => pure (k, some n, c.skip 2)
      | none => pure (k, none, c.next)
    | none => do
      match ← indentOf? c.peek with
      | none => pure (.clip, none, c)
      | some n => match chompingOf? c.next.peek with
        | some k => pure (k, some n, c.skip 2)
        | none => pure (.clip, some n, c.next)
  if endsWord c.peek then return (chomping, indent, c) else throw .malformed

/-- The blank lines before the text of a block scalar whose indentation is not given: their breaks,
and the largest column reached. -/
def blockStart (c : Cursor) (widest : Nat) : (fuel : Nat) → List Char × Nat × Cursor
  | 0 => ([], widest, c)
  | fuel + 1 =>
    let c := c.skipSpaces
    let widest := max widest c.column
    match c.break? with
    | none => ([], widest, c)
    | some (b, c) =>
      let (bs, widest, c) := blockStart c widest fuel
      (b :: bs, widest, c)

/-- The cursor behind spaces that are left of the column `indent`. -/
def skipIndent (indent : Nat) (c : Cursor) : Cursor :=
  c.skip (min (c.chars.takeWhile (· = ' ')).length (indent - c.column))

/-- The blank lines between two lines of a block scalar: their breaks. -/
def blockBreaks (indent : Nat) (c : Cursor) : (fuel : Nat) → List Char × Cursor
  | 0 => ([], c)
  | fuel + 1 =>
    let c := skipIndent indent c
    match c.break? with
    | none => ([], c)
    | some (b, c) =>
      let (bs, c) := blockBreaks indent c fuel
      (b :: bs, c)

/-- A blank starts more-indented lines, which are not folded. -/
def isBlankStart (o : Option Char) : Bool := o = some ' ' || o = some '\t'

/-- The lines of a block scalar. `breaks` stand before the first. Gives the text without the last
line's break, that break, and the breaks behind it. -/
def blockLines (folded : Bool) (indent : Nat) (breaks : List Char) (c : Cursor) :
    (fuel : Nat) → List Char × List Char × List Char × Cursor
  | 0 => ([], [], breaks, c)
  | fuel + 1 =>
    if c.column ≠ indent || c.peek.isNone then ([], [], breaks, c)
    else
      let blankStart := isBlankStart c.peek
      let (line, c) := c.span fun x => !isBreak x
      let text := breaks ++ line
      let (lineBreak, c) := match c.break? with
        | some (b, c) => ([b], c)
        | none => ([], c)
      let (after, c) := blockBreaks indent c fuel
      if c.column = indent && c.peek.isSome then
        let glue :=
          if folded && lineBreak = ['\n'] && !blankStart && !isBlankStart c.peek then
            if after.isEmpty then [' '] else []
          else lineBreak
        let (rest, lastBreak, afterLast, c) := blockLines folded indent after c fuel
        (text ++ glue ++ rest, lastBreak, afterLast, c)
      else (text, lineBreak, after, c)

/-- A block scalar below a block at column `outer`, if there is one. -/
def block (folded : Bool) (outer : Option Nat) (c : Cursor) : Except Error (String × Cursor) := do
  let fuel := c.chars.length + 1
  let (chomping, given, c) ← blockIndicators c.next
  let c ← c.endLine
  let least := match outer with
    | some n => n + 1
    | none => 1
  let (indent, breaks, c) := match given with
    | some n =>
      let indent := least + n - 1
      let (breaks, c) := blockBreaks indent c fuel
      (indent, breaks, c)
    | none =>
      let (breaks, widest, c) := blockStart c 0 fuel
      (max least widest, breaks, c)
  let (text, lastBreak, after, c) := blockLines folded indent breaks c fuel
  let ending := match chomping with
    | .strip => []
    | .clip => lastBreak
    | .keep => lastBreak ++ after
  return (String.ofList (text ++ ending), c)

end SchemaTypes.Yaml
