/-!
# Sets of characters

A property of characters is written as the list of its ranges of code points, in increasing order.
-/

namespace SchemaTypes.Text

/-- Closed ranges of code points. -/
abbrev Spans := List (Nat × Nat)

/-- The character lies in one of the ranges. -/
def Spans.has (spans : Spans) (c : Char) : Bool :=
  spans.any fun s => s.1 ≤ c.toNat && c.toNat ≤ s.2

end SchemaTypes.Text
