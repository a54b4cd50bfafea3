import SchemaTypes.Decimal.Binary
import SchemaTypes.Decimal.Digits

/-!
# Shortest decimals

The text of a double has the fewest digits that read back as the same double, and the nearest of
those to its exact value. Decimal exponents from -4 to 15 are written in positional notation, the
others with an exponent of two digits or more.
-/

namespace SchemaTypes.Decimal

/-- The reals that round to `mantissa · 2 ^ power`, as bounds over the denominator `4 · den` of the
value `num / den`: half a unit up, and half a unit down, or a quarter where the unit below is half
as large. -/
structure Interval where
  num : Nat
  den : Nat
  low : Nat
  high : Nat
  closed : Bool

/-- The interval of reals that round to the value. -/
def Interval.of (mantissa : Nat) (power : Int) : Interval :=
  let (num, den) := ratio mantissa power
  let unit := (ratio 1 power).1
  let down := if mantissa = twoTo 52 && -1074 < power then unit else 2 * unit
  ⟨num, den, 4 * num - down, 4 * num + 2 * unit, mantissa % 2 == 0⟩

/-- The decimal `digits · 10 ^ scale` lies in the interval. -/
def Interval.has (i : Interval) (digits : Nat) (scale : Int) : Bool :=
  let (up, below) := if 0 ≤ scale then (tenTo scale.toNat, 1) else (1, tenTo (-scale).toNat)
  let value := 4 * digits * up * i.den
  let low := i.low * below
  let high := i.high * below
  if i.closed then low ≤ value && value ≤ high else low < value && value < high

/-- The largest `k` below `start + fuel` with `10 ^ k ≤ num / den`, searched upward from `start`. -/
def magnitude (num den : Nat) (start : Int) : (fuel : Nat) → Int
  | 0 => start
  | fuel + 1 =>
    let next := start + 1
    let fits := if 0 ≤ next then tenTo next.toNat * den ≤ num else den ≤ num * tenTo (-next).toNat
    if fits then magnitude num den next fuel else start

/-- The better of the two neighbours of the value on the grid of step `10 ^ scale`, if one of them
reads back. -/
def gridHit (i : Interval) (scale : Int) : Option Nat :=
  let (num, den) := if 0 ≤ scale then (i.num, i.den * tenTo scale.toNat)
    else (i.num * tenTo (-scale).toNat, i.den)
  let nearest := roundHalfEven num den
  let other := if nearest * den ≤ num then nearest + 1 else nearest - 1
  if i.has nearest scale then some nearest
  else if i.has other scale then some other else none

/-- The first grid with a hit, from one digit to seventeen. -/
def shortestFrom (i : Interval) (top : Int) : (count fuel : Nat) → Nat × Int
  | _, 0 => (0, 0)
  | count, fuel + 1 =>
    let scale := top - count + 1
    match gridHit i scale with
    | some digits => (digits, scale)
    | none => shortestFrom i top (count + 1) fuel

/-- The fewest digits that read back, and the power of ten of the last of them. -/
def shortest (mantissa : Nat) (power : Int) : Nat × Int :=
  let i := Interval.of mantissa power
  shortestFrom i (magnitude i.num i.den (-330) 700) 1 17

/-- Digits without the zeros at the end. -/
def significant (digits : Nat) : List Char :=
  ((toString digits).toList.reverse.dropWhile (· = '0')).reverse

/-- Writes significant digits whose first one stands for `10 ^ exponent`. -/
def written (ds : List Char) (exponent : Int) : List Char :=
  if -4 ≤ exponent && exponent < 16 then
    if exponent < 0 then
      '0' :: '.' :: List.replicate (-exponent - 1).toNat '0' ++ ds
    else
      let whole := exponent.toNat + 1
      let padded := ds ++ List.replicate (whole - ds.length) '0'
      padded.take whole ++ '.' :: (if padded.length ≤ whole then ['0'] else padded.drop whole)
  else
    let tail := match ds.drop 1 with
      | [] => []
      | rest => '.' :: rest
    let sign := if exponent < 0 then '-' else '+'
    ds.take 1 ++ tail ++ 'e' :: sign :: (zeroPadded 2 exponent.natAbs).toList

def Binary.text : Binary → String
  | .nan => "nan"
  | .infinite negative => if negative then "-inf" else "inf"
  | .finite negative mantissa power =>
    let sign := if negative then "-" else ""
    if mantissa = 0 then sign ++ "0.0"
    else
      let (value, scale) := shortest mantissa power
      let exponent := scale + (digits value).length - 1
      sign ++ String.ofList (written (significant value) exponent)

def floatText (x : Float) : String := (Binary.ofFloat x).text

end SchemaTypes.Decimal
