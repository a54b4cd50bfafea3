import SchemaTypes.Decimal.Binary
import SchemaTypes.Decimal.Digits

/-!
# Fixed places

A double with a fixed number of decimal places, rounded from its exact value; a half goes to the
even neighbour.
-/

namespace SchemaTypes.Decimal

/-- The text of a double with `places` decimal places. -/
def Binary.fixed (places : Nat) : Binary → String
  | .nan => "nan"
  | .infinite negative => if negative then "-inf" else "inf"
  | .finite negative mantissa power =>
    let (num, den) := ratio mantissa power
    let scaled := roundHalfEven (num * tenTo places) den
    let unit := tenTo places
    (if negative then "-" else "") ++ toString (scaled / unit) ++
      (if places = 0 then "" else "." ++ zeroPadded places (scaled % unit))

/-- Seconds with `places` decimal places. -/
def fixedText (places : Nat) (x : Float) : String := (Binary.ofFloat x).fixed places

end SchemaTypes.Decimal
