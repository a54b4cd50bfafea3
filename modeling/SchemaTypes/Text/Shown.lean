import SchemaTypes.Text.HiddenTable

/-!
# Texts inside messages

A message shows a text between single quotes, or between double quotes when the text holds a
single quote and no double quote. The quote in use, the backslash, and every character without a
printed form are written as escapes.
-/

namespace SchemaTypes.Text

/-- The digit of a value below sixteen. -/
def hexDigit (n : Nat) : Char :=
  if n < 10 then Char.ofNat (48 + n) else Char.ofNat (87 + n)

/-- The last `width` hexadecimal digits of `n`. -/
def hexDigits : (width n : Nat) → List Char
  | 0, _ => []
  | width + 1, n => hexDigits width (n / 16) ++ [hexDigit (n % 16)]

/-- The character has a printed form. -/
def isPrinted (c : Char) : Bool :=
  if c.toNat < 127 then 32 ≤ c.toNat else !hiddenSpans.has c

/-- The escape of a character without a printed form: two, four or eight digits, as it needs. -/
def codeEscape (c : Char) : List Char :=
  if c.toNat < 0x100 then '\\' :: 'x' :: hexDigits 2 c.toNat
  else if c.toNat < 0x10000 then '\\' :: 'u' :: hexDigits 4 c.toNat
  else '\\' :: 'U' :: hexDigits 8 c.toNat

/-- How one character is shown between quotes of the kind `quote`. -/
def shownChar (quote c : Char) : List Char :=
  if c = quote || c = '\\' then ['\\', c]
  else if c = '\n' then ['\\', 'n']
  else if c = '\r' then ['\\', 'r']
  else if c = '\t' then ['\\', 't']
  else if isPrinted c then [c]
  else codeEscape c

/-- The quote that a text is shown between. -/
def quoteFor (cs : List Char) : Char :=
  if cs.contains '\'' && !cs.contains '"' then '"' else '\''

/-- A text as messages show it. -/
def shown (s : String) : String :=
  let quote := quoteFor s.toList
  String.ofList (quote :: s.toList.flatMap (shownChar quote) ++ [quote])

def shownList (xs : List String) : String := "[" ++ ", ".intercalate (xs.map shown) ++ "]"

end SchemaTypes.Text
