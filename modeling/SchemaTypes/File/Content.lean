/-!
# Contents

What is to be written to a file. A text in memory may hold surrogates that stand alone; then it has no
bytes.
-/

namespace SchemaTypes

def bytesOf (s : String) : List UInt8 := s.toUTF8.data.toList

/-- A text in memory. -/
inductive Content where
  | text (s : String)
  /-- A surrogate that stands alone, by its place among them, between two parts. -/
  | surrogate (before : String) (place : Fin 2048) (after : Content)
deriving Repr, DecidableEq

instance : Coe String Content := ⟨.text⟩

namespace Content

def characters : Content → String
  | text s => s
  | surrogate before _ after => before ++ after.characters

/-- The bytes, which only a text of characters has. -/
def encode? : Content → Option (List UInt8)
  | text s => some (bytesOf s)
  | surrogate .. => none

/-- The content has bytes. -/
def Encodable (c : Content) : Prop := c.encode?.isSome

instance : DecidablePred Encodable := fun c => inferInstanceAs (Decidable (c.encode?.isSome = true))

end Content

end SchemaTypes
