import SchemaTypes.Decimal.Digits

/-!
# Reading decimals

The double nearest to a decimal numeral. Exponents beyond the range of doubles are cut off before
any power of ten is formed.
-/

namespace SchemaTypes.Decimal

/-- The double nearest to `mantissa · 10 ^ exponent`. -/
def nearestFloat (mantissa : Nat) (exponent : Int) : Float :=
  let size : Int := (digits mantissa).length
  if mantissa = 0 || exponent + size < -330 then 0.0
  else if 310 < exponent + size then 1.0 / 0.0
  else Float.ofScientific mantissa (exponent < 0) exponent.natAbs

/-- Splits a numeral of digits, an optional fraction and an optional exponent, and reads it. The
numeral has no sign in front. -/
def readUnsigned (cs : List Char) : Float :=
  let whole := cs.takeWhile Char.isDigit
  let afterWhole := cs.dropWhile Char.isDigit
  let (frac, afterFrac) := match afterWhole with
    | '.' :: rest => (rest.takeWhile Char.isDigit, rest.dropWhile Char.isDigit)
    | rest => ([], rest)
  let exponent : Int := match afterFrac with
    | _ :: '-' :: ds => -(ofDigits 10 ds : Nat)
    | _ :: '+' :: ds => (ofDigits 10 ds : Nat)
    | _ :: ds => (ofDigits 10 ds : Nat)
    | [] => 0
  nearestFloat (ofDigits 10 (whole ++ frac)) (exponent - frac.length)

end SchemaTypes.Decimal
