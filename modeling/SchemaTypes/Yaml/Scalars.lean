import SchemaTypes.Decimal.Reading
import SchemaTypes.Json.Reading
import SchemaTypes.Text.Blank
import SchemaTypes.Text.Case
import SchemaTypes.Text.Digit
import SchemaTypes.Value
import SchemaTypes.Yaml.Plain

/-!
# Values of tagged scalars

What a scalar with a tag stands for. Most texts that have the tag by their own form have a value; a
tag that is written out may stand in front of any text, and then the text may not fit it.
-/

namespace SchemaTypes.Yaml

/-- What a tag makes of a text, or the mishap that the text is. -/
abbrev Fit := Except Error

def unfit {α : Type} (m : Mishap) : Fit α := .error (.mishap m)

/-- A sign in front, and what is behind it. -/
def cutSign : List Char → Int × List Char
  | '-' :: cs => (-1, cs)
  | '+' :: cs => (1, cs)
  | cs => (1, cs)

/-- The value of a digit in a base up to sixteen. -/
def digitIn? (base : Nat) (c : Char) : Option Nat := (Json.hexValue? c).filter (· < base)

/-- The letter that may stand behind a zero in front of the digits of a base. -/
def baseLetter? : (base : Nat) → Option Char
  | 2 => some 'b'
  | 8 => some 'o'
  | 16 => some 'x'
  | _ => none

/-- The digits of a base without its mark: a zero and its letter, large or small. -/
def dropBaseMark (base : Nat) : List Char → List Char
  | '0' :: c :: cs => if baseLetter? base = some c.toLower then cs else '0' :: c :: cs
  | cs => cs

/-- A number of digits in a base, with white space around it, a sign in front and the mark of the
base behind the sign. -/
def signedNumber? (base : Nat) (cs : List Char) : Option Int :=
  let (sign, ds) := cutSign ((Text.trimmed cs).map Text.asciiDigit)
  let ds := dropBaseMark base ds
  if ds.isEmpty then none
  else (ds.mapM (digitIn? base)).map fun vs =>
    sign * ((vs.foldl (fun n v => base * n + v) 0 : Nat) : Int)

def colonParts (cs : List Char) : List (List Char) :=
  match cs with
  | [] => [[]]
  | c :: rest =>
    if c = ':' then [] :: colonParts rest
    else match colonParts rest with
      | p :: ps => (c :: p) :: ps
      | [] => [[c]]

def intOf (s : String) : Fit Int := do
  let cs := s.toList.filter (· ≠ '_')
  if cs.isEmpty then unfit .noPlace
  let (sign, ds) := cutSign cs
  let read (o : Option Int) : Fit Int := match o with
    | some n => .ok (sign * n)
    | none => unfit .badValue
  match ds with
  | [] => unfit .noPlace
  | ['0'] => return 0
  | '0' :: 'b' :: ds => read (signedNumber? 2 ds)
  | '0' :: 'x' :: ds => read (signedNumber? 16 ds)
  | '0' :: _ => read (signedNumber? 8 ds)
  | ds =>
    if ds.contains ':' then
      read (((colonParts ds).mapM (signedNumber? 10)).map fun ns => ns.foldl (fun n v => 60 * n + v) 0)
    else read (signedNumber? 10 ds)

/-- The digits of a decimal numeral: digits with an optional point among them and an optional
exponent. -/
def isNumeral (cs : List Char) : Bool :=
  let whole := cs.takeWhile Char.isDigit
  let rest := cs.dropWhile Char.isDigit
  let (frac, rest) := match rest with
    | '.' :: r => (r.takeWhile Char.isDigit, r.dropWhile Char.isDigit)
    | r => ([], r)
  !(whole.isEmpty && frac.isEmpty) && match rest with
    | [] => true
    | 'e' :: r => Plain.isRun Char.isDigit (Plain.unsigned r)
    | _ => false

/-- The double of a numeral in small letters, with white space around it and a sign in front. -/
def signedFloat? (cs : List Char) : Option Float :=
  let (sign, ds) := cutSign ((Text.trimmed cs).map Text.asciiDigit)
  let size : Option Float :=
    if ds = "inf".toList || ds = "infinity".toList then some (1.0 / 0.0)
    else if ds = "nan".toList then some (0.0 / 0.0)
    else if isNumeral ds then some (Decimal.readUnsigned ds)
    else none
  size.map fun x => if sign < 0 then -x else x

def floatOf (s : String) : Fit Float := do
  let cs := Text.lower (s.toList.filter (· ≠ '_'))
  if cs.isEmpty then unfit .noPlace
  let (sign, ds) := cutSign cs
  let signed (x : Float) : Float := if sign < 0 then -x else x
  if ds = ".inf".toList then return signed (1.0 / 0.0)
  else if ds = ".nan".toList then return 0.0 / 0.0
  else if ds.contains ':' then
    match (colonParts ds).mapM signedFloat? with
    | none => unfit .badValue
    | some xs =>
      let total := xs.reverse.foldl (fun (t : Float × Float) x => (t.1 + x * t.2, t.2 * 60.0)) (0.0, 1.0)
      return signed total.1
  else match signedFloat? ds with
    | some x => return signed x
    | none => unfit .badValue

def boolOf (s : String) : Fit Bool :=
  match Plain.truthWords.lookup (Text.lowercase s) with
  | some b => .ok b
  | none => unfit .noKey

/-- The number of days of a month. -/
def daysOf (year month : Nat) : Nat :=
  if month = 2 then
    if year % 4 = 0 && (year % 100 ≠ 0 || year % 400 = 0) then 29 else 28
  else if month = 4 || month = 6 || month = 9 || month = 11 then 30 else 31

/-- The distance from universal time in seconds; it is less than a day. -/
def offsetOf (zone : Option (Option Char × List Char × List Char)) : Fit (Option Int) :=
  let number := Decimal.ofDigits 10
  match zone with
  | none => .ok none
  | some (none, _, _) => .ok (some 0)
  | some (some sign, hours, minutes) =>
    let size := 3600 * number hours + 60 * number minutes
    if 86400 ≤ size then unfit .badValue
    else .ok (some (if sign = '-' then -(size : Int) else size))

/-- Microseconds from the digits of a fraction of a second, cut to six. -/
def microOf (fraction : List Char) : Nat :=
  let ds := fraction.take 6
  Decimal.ofDigits 10 (ds ++ List.replicate (6 - ds.length) '0')

/-- The moment that a text stands for; the day and the time have to exist. -/
def momentOf (s : String) : Fit Moment := do
  match Plain.momentText? s.toList with
  | none => unfit .noLookup
  | some m =>
    let number := Decimal.ofDigits 10
    let year := number m.year
    let month := number m.month
    let day := number m.day
    let dayExists := 1 ≤ year && 1 ≤ month && month ≤ 12 && 1 ≤ day && day ≤ daysOf year month
    match m.clock with
    | none => if dayExists then return { year, month, day } else unfit .badValue
    | some (h, min, sec, fraction) =>
      let offset ← offsetOf m.zone
      let hour := number h
      let minute := number min
      let second := number sec
      if dayExists && hour < 24 && minute < 60 && second < 60 then
        return { year, month, day, clock := some ⟨hour, minute, second, microOf fraction, offset⟩ }
      else unfit .badValue

def sixBits? (c : Char) : Option Nat :=
  if c.isUpper then some (c.toNat - 65)
  else if c.isLower then some (c.toNat - 71)
  else if c.isDigit then some (c.toNat + 4)
  else if c = '+' then some 62
  else if c = '/' then some 63
  else none

/-- Bytes of a text in base 64. `pending` are the bits of the group so far, `count` its characters
and `pads` the equals signs behind them. Characters outside the alphabet are skipped. -/
def base64 (pending count pads : Nat) : List Char → Option (List UInt8)
  | [] => if count = 0 then some [] else none
  | c :: cs =>
    if c = '=' then
      if 2 ≤ count && 4 ≤ count + pads + 1 then some []
      else base64 pending count (if 2 ≤ count then pads + 1 else pads) cs
    else match sixBits? c with
      | none => base64 pending count pads cs
      | some v =>
        let bits := 64 * pending + v
        match count with
        | 0 => base64 bits 1 0 cs
        | 1 => (base64 (bits % 16) 2 0 cs).map (UInt8.ofNat (bits / 16) :: ·)
        | 2 => (base64 (bits % 4) 3 0 cs).map (UInt8.ofNat (bits / 4) :: ·)
        | _ => (base64 0 0 0 cs).map (UInt8.ofNat bits :: ·)

def bytesOfBase64 (s : String) : Fit (List UInt8) :=
  if s.toList.any fun c => 128 ≤ c.toNat then .error .malformed
  else match base64 0 0 0 s.toList with
    | some bs => .ok bs
    | none => .error .malformed

def scalarOf (tag : Tag) (s : String) : Fit Scalar :=
  match tag with
  | .null => .ok .null
  | .bool => .bool <$> boolOf s
  | .int => .int <$> intOf s
  | .float => .float <$> floatOf s
  | .moment => .moment <$> momentOf s
  | .bytes => .bytes <$> bytesOfBase64 s
  | .text => .ok (.text s)
  | _ => .error .malformed

end SchemaTypes.Yaml
