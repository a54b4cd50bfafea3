import SchemaTypes.Decimal.Reading
import SchemaTypes.Value

/-!
# Reading JSON

`Json.parse` reads one value and refuses what follows it. Besides the standard it accepts `NaN`,
`Infinity` and `-Infinity`; a repeated key keeps its first place and takes its last value. An error
names its cause and the number of characters in front of it.

An escape can name half of a character, a surrogate without its other half. No text here holds one: the
replacement character stands in its place, and the reading says that it does.
-/

namespace SchemaTypes.Json

/-- Why a text is no JSON value. -/
inductive Cause where
  | expectedValue
  | expectedKey
  | expectedColon
  | expectedComma
  | trailing
  | unterminated
  | badEscape
  | badUnicodeEscape
  | controlCharacter
  | byteOrderMark
deriving Repr, DecidableEq

/-- An error and the number of characters before its place. -/
structure Error where
  cause : Cause
  place : Nat
deriving Repr, DecidableEq

def Cause.message : Cause → String
  | expectedValue => "Expecting value"
  | expectedKey => "Expecting property name enclosed in double quotes"
  | expectedColon => "Expecting ':' delimiter"
  | expectedComma => "Expecting ',' delimiter"
  | trailing => "Extra data"
  | unterminated => "Unterminated string starting at"
  | badEscape => "Invalid \\escape"
  | badUnicodeEscape => "Invalid \\uXXXX escape"
  | controlCharacter => "Invalid control character at"
  | byteOrderMark => "Unexpected UTF-8 BOM (decode using utf-8-sig)"

/-- The cause, and its place by line, column and distance from the start of the text. -/
def Error.message (e : Error) (source : List Char) : String :=
  let before := source.take e.place
  let line := before.count '\n' + 1
  let column := (before.reverse.takeWhile (· != '\n')).length + 1
  s!"{e.cause.message}: line {line} column {column} (char {e.place})"

/-- What is left to read, how many characters were read, and whether half of a character was. -/
structure Rest where
  chars : List Char
  place : Nat
  halved : Bool
deriving Repr

/-- An error at the place that `r` has reached. -/
def Rest.fail {α : Type} (r : Rest) (cause : Cause) : Except Error α := .error ⟨cause, r.place⟩

/-- What follows the next `n` characters. -/
def Rest.skip (r : Rest) (n : Nat) : Rest := ⟨r.chars.drop n, r.place + n, r.halved⟩

/-- White space between tokens. -/
def isSpace (c : Char) : Bool := c = ' ' || c = '\t' || c = '\n' || c = '\r'

def Rest.skipSpace (r : Rest) : Rest := r.skip (r.chars.takeWhile isSpace).length

/-- The value of a hexadecimal digit. -/
def hexValue? (c : Char) : Option Nat :=
  if '0' ≤ c && c ≤ '9' then some (c.toNat - 48)
  else if 'a' ≤ c && c ≤ 'f' then some (c.toNat - 87)
  else if 'A' ≤ c && c ≤ 'F' then some (c.toNat - 55)
  else none

/-- The value of four hexadecimal digits with at least one character behind them. -/
def unit? : List Char → Option Nat
  | a :: b :: c :: d :: _ :: _ => do
    let a ← hexValue? a
    let b ← hexValue? b
    let c ← hexValue? c
    let d ← hexValue? d
    return ((a * 16 + b) * 16 + c) * 16 + d
  | _ => none

/-- The character behind a backslash, for the escapes of one character. -/
def simpleEscape? : Char → Option Char
  | '"' => some '"'
  | '\\' => some '\\'
  | '/' => some '/'
  | 'b' => some '\x08'
  | 'f' => some '\x0c'
  | 'n' => some '\n'
  | 'r' => some '\r'
  | 't' => some '\t'
  | _ => none

/-- The replacement character, in the place of half of one. -/
def Rest.half (r : Rest) : Char × Rest := ('\uFFFD', { r with halved := true })

/-- Reads the digits of a `\u` escape, at `r`, and those of a second escape where the two are the
halves of one character. -/
def unicodeEscape (r : Rest) : Except Error (Char × Rest) :=
  match unit? r.chars with
  | none => .error ⟨.badUnicodeEscape, r.place - 1⟩
  | some high =>
    let after := r.skip 4
    if 0xD800 ≤ high && high < 0xDC00 then
      match after.chars with
      | '\\' :: 'u' :: more =>
        if more.length < 5 then .ok after.half
        else match unit? more with
          | none => .error ⟨.badUnicodeEscape, after.place + 1⟩
          | some low =>
            if 0xDC00 ≤ low && low < 0xE000 then
              .ok (Char.ofNat (0x10000 + (high - 0xD800) * 0x400 + (low - 0xDC00)), after.skip 6)
            else .ok after.half
      | _ => .ok after.half
    else if 0xDC00 ≤ high && high < 0xE000 then .ok after.half
    else .ok (Char.ofNat high, after)

/-- Reads the rest of a string whose opening quote is at `start`. `seen` holds the characters read,
last first. -/
def string (start : Nat) : (fuel : Nat) → (seen : List Char) → Rest → Except Error (String × Rest)
  | 0, _, _ => .error ⟨.unterminated, start⟩
  | fuel + 1, seen, r => match r.chars with
    | [] => .error ⟨.unterminated, start⟩
    | '"' :: _ => .ok (String.ofList seen.reverse, r.skip 1)
    | ['\\'] => .error ⟨.unterminated, start⟩
    | '\\' :: 'u' :: _ => do
      let (c, after) ← unicodeEscape (r.skip 2)
      string start fuel (c :: seen) after
    | '\\' :: e :: _ => match simpleEscape? e with
      | some c => string start fuel (c :: seen) (r.skip 2)
      | none => r.fail .badEscape
    | c :: _ =>
      if c.toNat < 32 then r.fail .controlCharacter
      else string start fuel (c :: seen) (r.skip 1)

def leadingDigits (cs : List Char) : List Char := cs.takeWhile Char.isDigit

/-- The length of the fraction in front: a point and at least one digit, or nothing. -/
def fractionLength : List Char → Nat
  | '.' :: cs => match (leadingDigits cs).length with
    | 0 => 0
    | n => n + 1
  | _ => 0

/-- The length of the exponent in front: a letter, an optional sign and at least one digit, or
nothing. -/
def exponentLength : List Char → Nat
  | e :: cs =>
    if e = 'e' || e = 'E' then
      let sign := match cs with
        | '+' :: _ => 1
        | '-' :: _ => 1
        | _ => 0
      match (leadingDigits (cs.drop sign)).length with
      | 0 => 0
      | n => n + sign + 1
    else 0
  | [] => 0

def number (r : Rest) : Except Error (Value × Rest) :=
  let (negative, cs) := match r.chars with
    | '-' :: cs => (true, cs)
    | cs => (false, cs)
  let whole := match cs with
    | '0' :: _ => 1
    | cs => (leadingDigits cs).length
  if whole = 0 then r.fail .expectedValue
  else
    let frac := fractionLength (cs.drop whole)
    let exponent := exponentLength (cs.drop (whole + frac))
    let after := r.skip ((if negative then 1 else 0) + whole + frac + exponent)
    if frac + exponent = 0 then
      let n : Int := (Decimal.ofDigits 10 (cs.take whole) : Nat)
      .ok (.int (if negative then -n else n), after)
    else
      let x := Decimal.readUnsigned (cs.take (whole + frac + exponent))
      .ok (.scalar (.float (if negative then -x else x)), after)

/-- The values that are written as a word. -/
def words : List (String × Value) :=
  [("null", .null), ("true", .bool true), ("false", .bool false),
    ("NaN", .scalar (.float (0.0 / 0.0))), ("Infinity", .scalar (.float (1.0 / 0.0))),
    ("-Infinity", .scalar (.float (-1.0 / 0.0)))]

def word? (cs : List Char) : Option (Nat × Value) :=
  (words.find? fun w => w.1.toList.isPrefixOf cs).map fun w => (w.1.length, w.2)

mutual

def value : (fuel : Nat) → Rest → Except Error (Value × Rest)
  | 0, r => r.fail .expectedValue
  | fuel + 1, r => match r.chars with
    | '"' :: _ => do
      let (s, after) ← string r.place r.chars.length [] (r.skip 1)
      return (.text s, after)
    | '\x7b' :: _ =>
      let inner := (r.skip 1).skipSpace
      if inner.chars.head? = some '\x7d' then .ok (.mapping [], inner.skip 1)
      else do
        let (es, after) ← entries fuel [] inner
        return (.mapping (Entries.ofPairs es), after)
    | '[' :: _ =>
      let inner := (r.skip 1).skipSpace
      if inner.chars.head? = some ']' then .ok (.list [], inner.skip 1)
      else do
        let (xs, after) ← items fuel [] inner
        return (.list xs, after)
    | cs => match word? cs with
      | some (length, v) => .ok (v, r.skip length)
      | none => number r

/-- Reads the items of a list up to its closing bracket. `seen` holds those read, last first. -/
def items : (fuel : Nat) → (seen : List Value) → Rest → Except Error (List Value × Rest)
  | 0, _, r => r.fail .expectedValue
  | fuel + 1, seen, r => do
    let (v, after) ← value fuel r
    let after := after.skipSpace
    match after.chars with
    | ']' :: _ => return ((v :: seen).reverse, after.skip 1)
    | ',' :: _ => items fuel (v :: seen) (after.skip 1).skipSpace
    | _ => after.fail .expectedComma

/-- Reads the entries of a mapping up to its closing brace. `seen` holds those read, last first. -/
def entries : (fuel : Nat) → (seen : Entries) → Rest → Except Error (Entries × Rest)
  | 0, _, r => r.fail .expectedValue
  | fuel + 1, seen, r => match r.chars with
    | '"' :: _ => do
      let (key, after) ← string r.place r.chars.length [] (r.skip 1)
      let after := after.skipSpace
      match after.chars with
      | ':' :: _ =>
        let (v, after) ← value fuel (after.skip 1).skipSpace
        let after := after.skipSpace
        let seen := (Scalar.text key, v) :: seen
        match after.chars with
        | '\x7d' :: _ => return (seen.reverse, after.skip 1)
        | ',' :: _ => entries fuel seen (after.skip 1).skipSpace
        | _ => after.fail .expectedComma
      | _ => after.fail .expectedColon
    | _ => r.fail .expectedKey

end

/-- A value that was read, and whether half of a character was read in it. -/
structure Parsed where
  value : Value
  halved : Bool

/-- Reads one value with nothing but white space around it. Every call of a reader with less fuel
has read at least one character, so twice the length is fuel enough. -/
def parse (cs : List Char) : Except Error Parsed :=
  if cs.head? = some '\uFEFF' then .error ⟨.byteOrderMark, 0⟩
  else do
    let (v, after) ← value (2 * cs.length + 2) (Rest.mk cs 0 false).skipSpace
    let after := after.skipSpace
    if after.chars = [] then return ⟨v, after.halved⟩ else after.fail .trailing

end SchemaTypes.Json
