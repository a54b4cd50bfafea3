/-!
# Exact values of binary fractions

A finite double is `± mantissa · 2 ^ power`. The functions of this folder work on that exact value,
in whole numbers only.
-/

namespace SchemaTypes.Decimal

abbrev twoTo (n : Nat) : Nat := Nat.pow 2 n

abbrev tenTo (n : Nat) : Nat := Nat.pow 10 n

/-- What a double stands for. -/
inductive Binary where
  | nan
  | infinite (negative : Bool)
  | finite (negative : Bool) (mantissa : Nat) (power : Int)
deriving DecidableEq, Repr

/-- Reads the sign, exponent and fraction of the binary64 format. -/
def Binary.ofBits (bits : UInt64) : Binary :=
  let n : Nat := bits.toNat
  let negative := n / twoTo 63 == 1
  let exponent : Nat := n / twoTo 52 % 2048
  let low : Nat := n % twoTo 52
  if exponent = 2047 then if low = 0 then .infinite negative else .nan
  else if exponent = 0 then .finite negative low (-1074)
  else .finite negative (twoTo 52 + low) ((exponent : Int) - 1075)

def Binary.ofFloat (x : Float) : Binary := .ofBits x.toBits

/-- The value as a fraction of whole numbers, the sign left out. -/
def ratio (mantissa : Nat) (power : Int) : Nat × Nat :=
  if 0 ≤ power then (mantissa * twoTo power.toNat, 1) else (mantissa, twoTo (-power).toNat)

/-- The whole number that a double equals, if it equals one. -/
def Binary.toInt? : Binary → Option Int
  | .finite negative mantissa power =>
    let (num, den) := ratio mantissa power
    if num % den = 0 then 
      some (if negative then -((num / den : Nat) : Int) else ((num / den : Nat) : Int))
    else none
  | _ => none

/-- Rounds a quotient to the nearest whole number; a half goes to the even neighbour. -/
def roundHalfEven (num den : Nat) : Nat :=
  let q := num / den
  let twice := 2 * (num % den)
  if twice < den then q else if den < twice then q + 1 else q + q % 2

end SchemaTypes.Decimal
