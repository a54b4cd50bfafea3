import SchemaTypes.Text.Blank
import SchemaTypes.Text.Case
import SchemaTypes.Text.Split

/-!
# Identifier naming

Names of the schema become identifiers of the generated code in two styles. `pascal` joins
capitalised words; `snake` joins lower-case words by single low lines.

A name with separators (low lines, hyphens, white space) is cut at them; a name without is cut
before each ASCII capital. A name that is one word either way keeps its tail as it is.
-/

namespace SchemaTypes.Naming
open Text

/-- Separators of words in a name. -/
def isSeparator (c : Char) : Bool := c = '_' || c = '-' || isBlank c

/-- Cuts a word before each ASCII capital. -/
def splitCapitals : List Char → List (List Char)
  | [] => []
  | c :: cs => match cs, splitCapitals cs with
    | d :: _, w :: ws => if isCapital d then [c] :: w :: ws else (c :: w) :: ws
    | _, ws => [c] :: ws

/-- Capitalised words without separators. -/
def pascalChars (cs : List Char) : List Char :=
  match splitWords isSeparator cs with
  | [] => []
  | [word] => match splitCapitals word with
    | w :: v :: ws => (w :: v :: ws).flatMap capitalized
    | _ => raised word
  | words => words.flatMap capitalized

def pascal (name : String) : String := String.ofList (pascalChars name.toList)

/-- The name in Pascal case and a suffix; the empty name takes none. -/
def pascalWith (suffix name : String) : String :=
  if name = "" then "" else pascal name ++ suffix

/-- The branded identifier type of a model. -/
def brandName (model : String) : String := pascalWith "Id" model

/-- The runtime schema that wraps an enum. -/
def wrapperName (enum : String) : String := pascalWith "Schema" enum

/-- ASCII letters and digits. -/
def isAlnum (c : Char) : Bool := isCapital c || isSmall c || isDigit c

/-- Puts a low line where a word starts inside a run of letters: before a capital that follows a
small letter or digit, and before the last capital of a run that goes on in small letters. -/
def markWords (before : Option Char) : List Char → List Char
  | [] => []
  | c :: cs =>
    if isCapital c &&
        (before.any (fun b => isSmall b || isDigit b)
          || (before.any isCapital && cs.head?.any isSmall))
    then '_' :: c :: markWords (some c) cs
    else c :: markWords (some c) cs

/-- An ASCII capital as its small letter. -/
def small (c : Char) : Char := if isCapital c then Char.ofNat (c.toNat + 32) else c

/-- Lower-case words of ASCII letters and digits, joined by low lines. -/
def snakeChars (cs : List Char) : List Char :=
  (List.intercalate ['_'] (splitWords (fun c => !isAlnum c) (markWords none cs))).map small

def snake (name : String) : String := String.ofList (snakeChars name.toList)

end SchemaTypes.Naming
