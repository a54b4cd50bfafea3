import SchemaTypes.Checked

/-!
# Kinds of fields

What a field holds: a scalar of one of nine kinds, a member of an enum, or a link to other models.
-/

namespace SchemaTypes

/-- What a field holds. -/
inductive Kind where
  | string
  | int
  | float
  | boolean
  | dateTime
  | bigInt
  | decimal
  | bytes
  | json
  | enum
  | relation
deriving Repr, DecidableEq, Inhabited

namespace Kind

def all : List Kind :=
  [string, int, float, boolean, dateTime, bigInt, decimal, bytes, json, enum, relation]

def word : Kind → String
  | string => "String"
  | int => "Int"
  | float => "Float"
  | boolean => "Boolean"
  | dateTime => "DateTime"
  | bigInt => "BigInt"
  | decimal => "Decimal"
  | bytes => "Bytes"
  | json => "Json"
  | enum => "Enum"
  | relation => "Relation"

def ofWord? (s : String) : Option Kind := all.find? fun k => k.word == s

@[simp] theorem ofWord?_word (k : Kind) : ofWord? k.word = some k := by cases k <;> decide

def check (v : Value) : Checked Kind :=
  match (Checked.text v).toOption.bind ofWord? with
  | some k => .good k
  | none => .fail .notKind

end Kind

end SchemaTypes
