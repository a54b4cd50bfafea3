import SchemaTypes.Column.BaseType
import SchemaTypes.Schema.JoinTable
import SchemaTypes.Text.Quoted

/-!
# Column types

The type of a column is its base type inside wrappers, which stand in one fixed order and are never
merged: a list, then an optional value, then who writes the column, then its name in the database.
-/

namespace SchemaTypes

/-- Who writes a column. -/
inductive Access where
  /-- Clients read and write it. -/
  | plain
  /-- A value is there without the client's. -/
  | generated
  /-- Clients never write it. -/
  | readOnly
deriving Repr, DecidableEq

namespace Wrapped

def list (e : String) : String := "Schema.Array(" ++ e ++ ")"

/-- A value that may be absent. -/
def optional (e : String) : String := "Schema.NullishOr(" ++ e ++ ")"

/-- A column that clients never write. -/
def readOnly (e : String) : String := "columnType(" ++ e ++ ", Schema.Never, Schema.Never)"

/-- A column that has a value without the client's. -/
def generated (e : String) : String := "generated(" ++ e ++ ")"

/-- A column with another name in the database. -/
def bound (column e : String) : String :=
  "Schema.propertySignature(" ++ e ++ ").pipe(Schema.fromKey(" ++ Text.quote column ++ "))"

end Wrapped

namespace Access

/-- The expression for a column of this access. -/
def wrap : Access → String → String
  | plain, e => e
  | generated, e => Wrapped.generated e
  | readOnly, e => Wrapped.readOnly e

end Access

namespace Field

def access (f : Field) : Access :=
  if f.isId && f.hasDefault then .readOnly else if f.isGenerated then .generated else .plain

/-- The name in the database, where it differs. -/
def binding? (f : Field) : Option String := if f.column = f.name then none else some f.column

def wrapShape (f : Field) (e : String) : String :=
  let e := if f.isList then Wrapped.list e else e
  if f.isRequired then e else Wrapped.optional e

def wrapBinding (f : Field) (e : String) : String :=
  match f.binding? with
  | some column => Wrapped.bound column e
  | none => e

/-- All wrappers around a base type. -/
def wrap (f : Field) (e : String) : String := f.wrapBinding (f.access.wrap (f.wrapShape e))

def columnType (f : Field) (d : Document) (owner : Option String) (keys : ForeignKeys) :
    Except RenderFailure String :=
  (fun b => f.wrap b.expression) <$> f.baseType d owner keys

end Field

/-- The base type of a column of a join table. -/
def joinBaseType (kind : Kind) (isUuid : Bool) : BaseType :=
  match kind with
  | .string => if isUuid then .uuid else .text
  | .int => .number
  | .float => .number
  | .bigInt => .bigInt
  | _ => .text

/-- The type of a column of a join table: never written by clients, and bound to its name in the
database. -/
def joinColumnType (kind : Kind) (isUuid : Bool) (column : String) : String :=
  Wrapped.bound column (Wrapped.readOnly (joinBaseType kind isUuid).expression)

end SchemaTypes
