import SchemaTypes.Schema.Field
import SchemaTypes.Text.Case
import SchemaTypes.Text.Word

/-!
# UUID fields

Whether a field holds UUIDs is decided by the first of three marks that it has: its storage type,
a tag in its documentation, its name.
-/

namespace SchemaTypes

/-- The letters of `word` and `cs` are the same up to case. The letter `i` also has its dotted
capital and its dotless small form. -/
def sameLetters : (word cs : List Char) → Bool
  | [], [] => true
  | w :: ws, c :: cs =>
    (w = c || w.toUpper = c || (w = 'i' && (c = 'İ' || c = 'ı'))) && sameLetters ws cs
  | _, _ => false

/-- The text ends in `ending` up to case, and what is before it is on one line. -/
def endsOneLine (ending cs : List Char) : Bool :=
  sameLetters ending (cs.drop (cs.length - ending.length)) &&
    !(cs.take (cs.length - ending.length)).contains '\n'

/-- The characters without one line break at the end. -/
def withoutLastBreak (cs : List Char) : List Char :=
  if cs.getLast? = some '\n' then cs.dropLast else cs

/-- The name is `id` or `uuid`, or ends in one of them behind a low line. -/
def isUuidName (name : String) : Bool :=
  let cs := withoutLastBreak name.toList
  sameLetters "id".toList cs || sameLetters "uuid".toList cs ||
    endsOneLine "_id".toList cs || endsOneLine "_uuid".toList cs

namespace Field

/-- The field holds UUIDs. A storage type decides alone; else the tag `@db.Uuid` in the
documentation or a telling name is enough. -/
def isUuid (f : Field) : Bool :=
  match f.nativeType with
  | some t => Text.lowercase t = "uuid"
  | none =>
    Text.occurs "@db.Uuid".toList (f.documentation.getD "").toList || isUuidName f.name

end Field

end SchemaTypes
