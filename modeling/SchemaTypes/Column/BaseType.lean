import SchemaTypes.Column.TypeNote
import SchemaTypes.Column.Uuid
import SchemaTypes.Failure
import SchemaTypes.Naming
import SchemaTypes.Relation.ForeignKeys

/-!
# Base types of columns

The type that a column has before it is wrapped. A type note goes first, then the brand of the
model on its identifier, then the brand of the target on a foreign key, then the kind of the field.
-/

namespace SchemaTypes

/-- The type of a column before it is wrapped. -/
inductive BaseType where
  | uuid
  | text
  | number
  | bigInt
  | boolean
  | date
  | unknown
  | bytes
  /-- The branded identifier of a model. -/
  | brand (model : String)
  /-- The runtime schema of an enum. -/
  | wrapper (enum : String)
  /-- The text of a type note. -/
  | custom (text : String)
deriving Repr, DecidableEq

namespace BaseType

def expression : BaseType → String
  | uuid => "Schema.UUID"
  | text => "Schema.String"
  | number => "Schema.Number"
  | bigInt => "Schema.BigInt"
  | boolean => "Schema.Boolean"
  | date => "Schema.DateFromSelf"
  | unknown => "Schema.Unknown"
  | bytes => "Schema.Uint8Array"
  | brand model => Naming.brandName model
  | wrapper enum => Naming.wrapperName enum
  | custom s => s

end BaseType

namespace Field

/-- The enum that the field refers to, if the schema has it. -/
def enum? (f : Field) (d : Document) : Option Enumeration :=
  (f.enumName.filter (· ≠ "")).bind d.enum?

/-- The base type by kind alone. -/
def kindType (f : Field) (d : Document) : Except RenderFailure BaseType :=
  match f.kind with
  | .relation => .error (.unmappable f.name f.kind.word)
  | .enum => match f.enum? d with
    | some e => .ok (.wrapper e.name)
    | none => .error (.undefinedEnum f.name f.enumName d.enumNames)
  | .string => .ok (if f.isUuid then .uuid else .text)
  | .int => .ok .number
  | .float => .ok .number
  | .bigInt => .ok .bigInt
  | .decimal => .ok .text
  | .boolean => .ok .boolean
  | .dateTime => .ok .date
  | .json => .ok .unknown
  | .bytes => .ok .bytes

/-- The base type of a column. `owner` is the model whose brand its identifier has. -/
def baseType (f : Field) (d : Document) (owner : Option String) (keys : ForeignKeys) :
    Except RenderFailure BaseType :=
  if f.isRelation then .error (.unmappable f.name f.kind.word)
  else match f.override? with
    | some text => .ok (.custom text)
    | none => match owner.filter fun _ => f.isId with
      | some model => .ok (.brand model)
      | none => match keys.get? f.name with
        | some target => .ok (.brand target)
        | none => f.kindType d

end Field

end SchemaTypes
