import SchemaTypes.Decimal.Shortest
import SchemaTypes.Text.Shown
import SchemaTypes.Value

/-!
# Writing JSON

Values as JSON texts of ASCII characters: on one line, or with one item a line.
-/

namespace SchemaTypes.Json

/-- One UTF-16 unit as an escape. -/
def unitEscape (n : Nat) : List Char := '\\' :: 'u' :: Text.hexDigits 4 n

def stringChar (c : Char) : List Char :=
  if c = '"' || c = '\\' then ['\\', c]
  else if c = '\n' then ['\\', 'n']
  else if c = '\r' then ['\\', 'r']
  else if c = '\t' then ['\\', 't']
  else if c = '\x08' then ['\\', 'b']
  else if c = '\x0c' then ['\\', 'f']
  else if 32 ≤ c.toNat && c.toNat < 127 then [c]
  else if c.toNat < 0x10000 then unitEscape c.toNat
  else
    let n := c.toNat - 0x10000
    unitEscape (0xD800 + n / 0x400) ++ unitEscape (0xDC00 + n % 0x400)

def stringText (s : String) : String :=
  String.ofList ('"' :: s.toList.flatMap stringChar ++ ['"'])

/-- A double; those that JSON has no numeral for are written as words. -/
def floatText (x : Float) : String :=
  match Decimal.Binary.ofFloat x with
  | .nan => "NaN"
  | .infinite negative => if negative then "-Infinity" else "Infinity"
  | b => b.text

/-- A scalar without its quotes where it is no text; moments and bytes as texts. -/
def scalarWord : Scalar → String
  | .null => "null"
  | .bool b => if b then "true" else "false"
  | .int n => toString n
  | .float x => floatText x
  | .text s => s
  | .moment _ => ""
  | .bytes _ => ""

def scalarText : Scalar → String
  | .text s => stringText s
  | s => scalarWord s

mutual

/-- The value on one line. -/
def compact : Value → String
  | .scalar s => scalarText s
  | .list xs => "[" ++ ", ".intercalate (compactItems xs) ++ "]"
  | .set xs => "[" ++ ", ".intercalate (xs.map scalarText) ++ "]"
  | .mapping es => "\x7b" ++ ", ".intercalate (compactEntries es) ++ "\x7d"

def compactItems : List Value → List String
  | [] => []
  | x :: xs => compact x :: compactItems xs

def compactEntries : List (Scalar × Value) → List String
  | [] => []
  | (k, v) :: es => (stringText (scalarWord k) ++ ": " ++ compact v) :: compactEntries es

end

/-- Lines of a bracketed group at a depth of `depth` steps of two spaces. -/
def bracketed (left right : String) (depth : Nat) (parts : List String) : String :=
  if parts.isEmpty then left ++ right
  else
    let step (n : Nat) := "\n" ++ String.ofList (List.replicate (2 * n) ' ')
    left ++ step (depth + 1) ++ ("," ++ step (depth + 1)).intercalate parts ++ step depth ++ right

mutual

/-- The value with one item a line, `depth` steps in. -/
def spread (depth : Nat) : Value → String
  | .scalar s => scalarText s
  | .list xs => bracketed "[" "]" depth (spreadItems (depth + 1) xs)
  | .set xs => bracketed "[" "]" depth (xs.map scalarText)
  | .mapping es => bracketed "\x7b" "\x7d" depth (spreadEntries (depth + 1) es)

def spreadItems (depth : Nat) : List Value → List String
  | [] => []
  | x :: xs => spread depth x :: spreadItems depth xs

def spreadEntries (depth : Nat) : List (Scalar × Value) → List String
  | [] => []
  | (k, v) :: es => (stringText (scalarWord k) ++ ": " ++ spread depth v) :: spreadEntries depth es

end

end SchemaTypes.Json
