import SchemaTypes.Text.Spans

/-!
# White space

White space is that of Unicode together with the separators U+001C to U+001F. A text is blank when
it holds nothing else; `trim` drops white space at both ends.
-/

namespace SchemaTypes.Text

/-- Ranges of white space. -/
def blankSpans : Spans := [
    (9, 0xd), (0x1c, 0x20), (0x85, 0x85), (0xa0, 0xa0), (0x1680, 0x1680), (0x2000, 0x200a),
    (0x2028, 0x2029), (0x202f, 0x202f), (0x205f, 0x205f), (0x3000, 0x3000)]

/-- White space. -/
def isBlank (c : Char) : Bool := blankSpans.has c

/-- The text holds only white space, or nothing. -/
def allBlank (s : String) : Bool := s.toList.all isBlank

/-- Drops white space at both ends. -/
def trimmed (cs : List Char) : List Char :=
  ((cs.dropWhile isBlank).reverse.dropWhile isBlank).reverse

/-- Drops white space at both ends of a text. -/
def trim (s : String) : String := String.ofList (trimmed s.toList)

end SchemaTypes.Text
