import SchemaTypes.Yaml.Cursor

/-!
# What plain scalars stand for

A plain scalar is a truth value, a number, a moment, nothing, a merge mark or the mark of a value if
it is written like one, and a text otherwise. The patterns here say how each of them is written.
-/

namespace SchemaTypes.Yaml

/-- What a tag says about a node. -/
inductive Tag where
  | null
  | bool
  | int
  | float
  | moment
  | bytes
  | text
  | sequence
  | mapping
  | set
  | pairs
  | orderedMapping
  /-- The mark of keys whose value is merged into the mapping. -/
  | merge
  /-- The mark of the key that holds the value of a mapping used as a scalar. -/
  | value
  /-- A tag that has no meaning here. -/
  | unknown
deriving Repr, DecidableEq

/-- What the addresses of the common tags end in, behind their shared start. -/
def commonTags : List (String × Tag) := [
  ("null", .null), ("bool", .bool), ("int", .int), ("float", .float), ("timestamp", .moment),
  ("binary", .bytes), ("str", .text), ("seq", .sequence), ("map", .mapping), ("set", .set),
  ("pairs", .pairs), ("omap", .orderedMapping), ("merge", .merge), ("value", .value)]

def tagOf (address : String) : Tag :=
  ((commonTags.find? fun t => "tag:yaml.org,2002:" ++ t.1 == address).map (·.2)).getD .unknown

namespace Plain

/-- The spellings of truth values. -/
def truthWords : List (String × Bool) :=
  [("yes", true), ("no", false), ("true", true), ("false", false), ("on", true), ("off", false)]

/-- A word in small letters, in capitals, or with a capital in front. -/
def spellings (w : String) : List String :=
  [w, w.map Char.toUpper, String.ofList (match w.toList with
    | [] => []
    | c :: cs => c.toUpper :: cs)]

/-- A decimal digit or a low line, which numbers may hold for legibility. -/
def isDigitOrMark (c : Char) : Bool := c.isDigit || c = '_'

/-- The characters behind a sign. -/
def unsigned : List Char → List Char
  | '+' :: cs => cs
  | '-' :: cs => cs
  | cs => cs

/-- Nothing but characters of a class, and at least one of them. -/
def isRun (p : Char → Bool) (cs : List Char) : Bool := !cs.isEmpty && cs.all p

/-- One or more groups of a colon and a number below sixty, and what follows them. -/
def sixtieths : List Char → Option (List Char)
  | ':' :: a :: b :: cs =>
    if '0' ≤ a && a ≤ '5' && b.isDigit then some ((sixtieths cs).getD cs)
    else if a.isDigit then some ((sixtieths (b :: cs)).getD (b :: cs))
    else none
  | [':', a] => if a.isDigit then some [] else none
  | _ => none

/-- A number in base sixty starts with a digit; what follows its groups. -/
def afterSixtieths (first : Char → Bool) (cs : List Char) : Option (List Char) :=
  match cs with
  | c :: _ => if first c then sixtieths (cs.dropWhile isDigitOrMark) else none
  | [] => none

/-- A whole number: binary, octal, decimal, hexadecimal or in base sixty. -/
def isInt (cs : List Char) : Bool :=
  match unsigned cs with
  | '0' :: 'b' :: ds => isRun (fun c => c = '0' || c = '1' || c = '_') ds
  | '0' :: 'x' :: ds => isRun (fun c => c = '_' || c.isDigit || ('a' ≤ c && c ≤ 'f') ||
      ('A' ≤ c && c ≤ 'F')) ds
  | ['0'] => true
  | '0' :: ds => ds.all fun c => c = '_' || ('0' ≤ c && c ≤ '7')
  | c :: ds =>
    c.isDigit && (ds.all isDigitOrMark ||
      afterSixtieths (fun c => c.isDigit && c ≠ '0') (c :: ds) = some [])
  | [] => false

/-- An exponent with a sign, or nothing. -/
def isExponent : List Char → Bool
  | [] => true
  | e :: sign :: ds => (e = 'e' || e = 'E') && (sign = '+' || sign = '-') && isRun Char.isDigit ds
  | _ => false

/-- A double: with a point, in base sixty, infinite, or no number. -/
def isFloat (cs : List Char) : Bool :=
  [".nan", ".NaN", ".NAN"].contains (String.ofList cs) ||
  [".inf", ".Inf", ".INF"].contains (String.ofList (unsigned cs)) ||
  (match cs with
    | '.' :: d :: ds => d.isDigit && isExponent (ds.dropWhile isDigitOrMark)
    | _ => false) ||
  (match unsigned cs with
    | d :: ds => d.isDigit && match (d :: ds).dropWhile isDigitOrMark with
      | '.' :: rest => isExponent (rest.dropWhile isDigitOrMark)
      | _ => false
    | [] => false) ||
  match afterSixtieths Char.isDigit (unsigned cs) with
  | some ('.' :: rest) => rest.all isDigitOrMark
  | _ => false

/-- The parts of a moment as they are written. -/
structure MomentText where
  year : List Char
  month : List Char
  day : List Char
  /-- Hour, minute, second and the fraction of a second. -/
  clock : Option (List Char × List Char × List Char × List Char) := none
  /-- The distance from universal time: its sign, hours and minutes; `Z` has none of them. -/
  zone : Option (Option Char × List Char × List Char) := none
deriving Repr

/-- Between `low` and `high` digits in front, as many as there are, and what follows them. -/
def someDigits (low high : Nat) (cs : List Char) : Option (List Char × List Char) :=
  let n := (cs.takeWhile Char.isDigit).length
  if n < low then none else some (cs.take (min n high), cs.drop (min n high))

/-- The characters behind `c`. -/
def behind (c : Char) : List Char → Option (List Char)
  | d :: cs => if c = d then some cs else none
  | [] => none

/-- White space in front of the time or the zone of a moment. -/
def skipBlanks (cs : List Char) : List Char := cs.dropWhile fun c => c = ' ' || c = '\t'

/-- The distance from universal time, which ends a moment. -/
def zoneText (cs : List Char) : Option (Option (Option Char × List Char × List Char)) :=
  match cs, skipBlanks cs with
  | [], _ => some none
  | _, ['Z'] => some (some (none, [], []))
  | _, sign :: rest => do
    guard (sign = '+' || sign = '-')
    let (hours, rest) ← someDigits 1 2 rest
    match rest with
    | [] => return some (some sign, hours, [])
    | rest => do
      let (minutes, rest) ← someDigits 2 2 (← behind ':' rest)
      guard rest.isEmpty
      return some (some sign, hours, minutes)
  | _, [] => none

/-- The time of a moment and its distance from universal time. -/
def clockText (cs : List Char) : Option (MomentText → MomentText) := do
  let (hour, rest) ← someDigits 1 2 cs
  let (minute, rest) ← someDigits 2 2 (← behind ':' rest)
  let (second, rest) ← someDigits 2 2 (← behind ':' rest)
  let (fraction, rest) := match rest with
    | '.' :: rest => (rest.takeWhile Char.isDigit, rest.dropWhile Char.isDigit)
    | rest => ([], rest)
  let zone ← zoneText rest
  return fun m => { m with clock := some (hour, minute, second, fraction), zone }

/-- A day, or a moment on it. -/
def momentText? (cs : List Char) : Option MomentText := do
  let (year, rest) ← someDigits 4 4 cs
  let (month, rest) ← someDigits 1 2 (← behind '-' rest)
  let (day, rest) ← someDigits 1 2 (← behind '-' rest)
  let m : MomentText := { year, month, day }
  match rest with
  | [] => return m
  | 'T' :: rest => return (← clockText rest) m
  | 't' :: rest => return (← clockText rest) m
  | c :: rest => do
    guard (c = ' ' || c = '\t')
    return (← clockText (skipBlanks rest)) m

/-- A moment as plain scalars spell it: a day alone has two digits for month and day. -/
def isMoment (cs : List Char) : Bool :=
  match momentText? cs with
  | none => false
  | some m => m.clock.isSome || (m.month.length = 2 && m.day.length = 2)

def tag (s : String) : Tag :=
  let cs := s.toList
  if (truthWords.flatMap fun w => spellings w.1).contains s then .bool
  else if isFloat cs then .float
  else if isInt cs then .int
  else if s = "<<" then .merge
  else if s = "" || s = "~" || (spellings "null").contains s then .null
  else if isMoment cs then .moment
  else if s = "=" then .value
  else .text

end Plain

end SchemaTypes.Yaml
