/-!
# String literals of the generated code

A literal stands between double quotes; a backslash comes before every backslash and every double
quote of the text. `unquote?` reads a literal back and refuses everything else.
-/

namespace SchemaTypes.Text

/-- The text with a backslash before each backslash and each double quote. -/
def escaped : List Char → List Char
  | [] => []
  | c :: cs => if c = '\\' || c = '"' then '\\' :: c :: escaped cs else c :: escaped cs

/-- The literal that stands for a text. -/
def quote (s : String) : String := String.ofList ('"' :: escaped s.toList ++ ['"'])

/-- Reads up to the first double quote that no backslash takes; a backslash takes the character
after it literally. Gives the characters read and what follows the quote. -/
def readQuoted : List Char → Option (List Char × List Char)
  | [] => none
  | ['\\'] => none
  | '\\' :: c :: cs => (readQuoted cs).map fun (r : List Char × List Char) => (c :: r.1, r.2)
  | c :: cs =>
    if c = '"' then some ([], cs)
    else (readQuoted cs).map fun (r : List Char × List Char) => (c :: r.1, r.2)

/-- The text that a literal stands for. -/
def unquote? (s : String) : Option String :=
  match s.toList with
  | '"' :: cs => match readQuoted cs with
    | some (text, []) => some (String.ofList text)
    | _ => none
  | _ => none

end SchemaTypes.Text
