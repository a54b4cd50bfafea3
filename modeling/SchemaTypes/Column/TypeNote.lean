import SchemaTypes.Schema.Field
import SchemaTypes.Text.Blank
import SchemaTypes.Text.Word

/-!
# Type notes

The documentation of a field may hold a note `@customType(…)` whose text replaces the type of the
column. The first note counts. Its text ends at the parenthesis that closes the one of the note;
it has to start with `Schema.` or to be a type name.
-/

namespace SchemaTypes

/-- What the documentation of a field says about its type. -/
inductive TypeNote where
  | absent
  | unbalanced
  | invalid (text : String)
  | accepted (text : String)
deriving Repr, DecidableEq

namespace TypeNote

/-- The word that starts a note. -/
def mark : List Char := "@customType".toList

/-- What follows the mark, white space and an opening parenthesis at the front. -/
def openedAtFront? (cs : List Char) : Option (List Char) :=
  match (Text.dropFront? mark cs).map (List.dropWhile Text.isBlank) with
  | some ('(' :: rest) => some rest
  | _ => none

/-- What follows the start of the first note. -/
def opened? : List Char → Option (List Char)
  | [] => none
  | c :: cs => (openedAtFront? (c :: cs)).or (opened? cs)

/-- The text before the parenthesis that closes `depth` open ones and one more. -/
def upToClosing? : (depth : Nat) → List Char → Option (List Char)
  | _, [] => none
  | 0, ')' :: _ => some []
  | depth + 1, ')' :: cs => (upToClosing? depth cs).map (')' :: ·)
  | depth, '(' :: cs => (upToClosing? (depth + 1) cs).map ('(' :: ·)
  | depth, c :: cs => (upToClosing? depth cs).map (c :: ·)

/-- A type name: an ASCII capital followed by ASCII letters and digits. -/
def isTypeName : List Char → Bool
  | [] => false
  | c :: cs => c.isUpper && cs.all Char.isAlphanum

/-- The text alone is a type name; a line break may end it. -/
def isReference (s : String) : Bool :=
  match s.toList.getLast? with
  | some '\n' => isTypeName s.toList.dropLast
  | _ => isTypeName s.toList

/-- The text may stand as a type. -/
def isType (s : String) : Bool := (Text.dropFront? "Schema.".toList s.toList).isSome || isReference s

/-- What a documentation says. -/
def ofText (doc : String) : TypeNote :=
  match opened? doc.toList with
  | none => absent
  | some rest => match upToClosing? 0 rest with
    | none => unbalanced
    | some inner =>
      let text := String.ofList (Text.trimmed inner)
      if isType text then accepted text else invalid text

end TypeNote

namespace Field

/-- What the documentation says about the type of the column. -/
def typeNote (f : Field) : TypeNote := TypeNote.ofText (f.documentation.getD "")

/-- The type that the documentation asks for. -/
def override? (f : Field) : Option String :=
  match f.typeNote with
  | .accepted text => some text
  | _ => none

end Field

end SchemaTypes
