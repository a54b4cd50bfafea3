import SchemaTypes.Text.Blank

/-!
# Lines

Counting and indenting lines, and the one form of line break that read texts have.
-/

namespace SchemaTypes.Text

/-- Lines joined by line breaks, none after the last. -/
def unlines (ls : List String) : String := "\n".intercalate ls

/-- Blocks joined with one empty line between them. -/
def blocks (bs : List String) : String := "\n\n".intercalate bs

/-- A text stands among those that it is joined with, set off by the separator. -/
theorem exists_intercalate_eq {sep text : String} {ls : List String} (h : text ∈ ls) :
    ∃ before after, sep.intercalate ls = before ++ text ++ after ∧
      (before = "" ∨ ∃ front, before = front ++ sep) ∧ (after = "" ∨ ∃ back, after = sep ++ back) := by
  obtain ⟨front, back, rfl⟩ := List.append_of_mem h
  obtain ⟨after, hback, hafter⟩ : ∃ after, sep.intercalate (text :: back) = text ++ after ∧
      (after = "" ∨ ∃ back, after = sep ++ back) := by
    by_cases hnil : back = []
    · exact ⟨"", by rw [hnil, String.intercalate_singleton, String.append_empty], .inl rfl⟩
    · exact ⟨sep ++ sep.intercalate back,
        by rw [String.intercalate_cons_of_ne_nil hnil, String.append_assoc], .inr ⟨_, rfl⟩⟩
  by_cases hnil : front = []
  · exact ⟨"", after, by rw [hnil, List.nil_append, hback, String.empty_append], .inl rfl, hafter⟩
  · refine ⟨sep.intercalate front ++ sep, after, ?_, .inr ⟨_, rfl⟩, hafter⟩
    rw [String.intercalate_append_of_ne_nil hnil (List.cons_ne_nil _ _), hback, ← String.append_assoc]

/-- The number of lines of a text; a line break at its end starts no further line. -/
def lineCount (s : String) : Nat :=
  match s.toList.getLast? with
  | none => 0
  | some c => s.toList.count '\n' + (if c = '\n' then 0 else 1)

def breakCount (s : String) : Nat := s.toList.count '\n'

/-- The number of bytes of the text in UTF-8. -/
def byteCount (s : String) : Nat := s.utf8ByteSize

def spaces (width : Int) : String := String.ofList (List.replicate width.toNat ' ')

/-- Each line behind `width` spaces; a blank line stays as it is. -/
def indentBy (width : Int) (ls : List String) : List String :=
  ls.map fun l => if allBlank l then l else spaces width ++ l

/-- Lines of a block, one step of two spaces in. -/
def indent (ls : List String) : List String := indentBy 2 ls

/-- Carriage returns, alone or before a line feed, become line feeds. -/
def withLineFeeds : List Char → List Char
  | [] => []
  | '\r' :: '\n' :: cs => '\n' :: withLineFeeds cs
  | '\r' :: cs => '\n' :: withLineFeeds cs
  | c :: cs => c :: withLineFeeds cs

/-- A text padded with spaces on the right to `width` characters. -/
def padRight (width : Nat) (s : String) : String :=
  s ++ String.ofList (List.replicate (width - s.length) ' ')

/-- A text padded with spaces on the left to `width` characters. -/
def padLeft (width : Nat) (s : String) : String :=
  String.ofList (List.replicate (width - s.length) ' ') ++ s

end SchemaTypes.Text
