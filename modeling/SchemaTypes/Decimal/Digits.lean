/-!
# Decimal digits

Whole numbers in decimal, and the grouping of digits in threes.
-/

namespace SchemaTypes.Decimal

def digits (n : Nat) : List Char := (toString n).toList

/-- The number in decimal, with zeros in front up to `width` digits. -/
def zeroPadded (width n : Nat) : String :=
  let ds := digits n
  String.ofList (List.replicate (width - ds.length) '0' ++ ds)

/-- Reads a numeral in a base up to sixteen, most significant digit first. -/
def ofDigits (base : Nat) (cs : List Char) : Nat :=
  cs.foldl (fun n c =>
    base * n + (if c.isDigit then c.toNat - 48 else c.toLower.toNat - 87)) 0

/-- Puts a comma before every third digit, counted from the end. -/
def groupedChars (ds : List Char) : List Char :=
  match ds with
  | [] => []
  | d :: rest =>
    if rest ≠ [] && rest.length % 3 = 0 then d :: ',' :: groupedChars rest
    else d :: groupedChars rest

def grouped (n : Int) : String :=
  (if n < 0 then "-" else "") ++ String.ofList (groupedChars (digits n.natAbs))

end SchemaTypes.Decimal
