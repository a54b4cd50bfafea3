/-!
# Runs between separators

Cutting a text at separators; an empty run is no part.
-/

namespace SchemaTypes.Text

/-- The longest runs of characters that `sep` does not hold of, in order. -/
def splitWords (sep : Char → Bool) : List Char → List (List Char)
  | [] => []
  | c :: cs =>
    if sep c then splitWords sep cs
    else match cs, splitWords sep cs with
      | d :: _, w :: ws => if sep d then [c] :: w :: ws else (c :: w) :: ws
      | _, ws => [c] :: ws

/-- The parts of a text between separators, without the empty ones. -/
def parts (sep : Char → Bool) (s : String) : List String :=
  (splitWords sep s.toList).map String.ofList

end SchemaTypes.Text
