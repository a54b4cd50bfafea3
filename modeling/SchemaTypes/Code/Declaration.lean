import SchemaTypes.Code.Scope
import SchemaTypes.Column.Wrapped
import SchemaTypes.Text.Lines

/-!
# Declarations

What the generated files declare, as data: enums with their runtime schemas, branded identifiers,
and tables with a base schema, an operational schema and the aliases of its types. Each kind has a
text; `names` are the identifiers that a declaration binds as values.
-/

namespace SchemaTypes
open Text

/-- The branded identifier of a model. -/
structure BrandDecl where
  model : String
  /-- What the identifier holds. -/
  base : BaseType
deriving Repr, DecidableEq

/-- A table: the base schema of its columns and what is derived from it. -/
structure TableDecl where
  comments : List String
  /-- The name of the base schema. -/
  base : String
  /-- The name of the operational schema, which the names of the aliases start with. -/
  name : String
  /-- The columns: names and types. -/
  columns : List (String × String)
deriving Repr, DecidableEq

namespace Enumeration

def pascalName (e : Enumeration) : String := Naming.pascal e.name

/-- The name of the runtime schema. -/
def wrapper (e : Enumeration) : String := Naming.wrapperName e.name

def names (e : Enumeration) : List String := [e.pascalName, e.wrapper]

def text (e : Enumeration) : String :=
  unlines <|
    ("export enum " ++ e.pascalName ++ " \x7b") ::
    indent (e.members.map fun m => m.name ++ " = " ++ quote m.stored ++ ",") ++
    ["\x7d", "",
      "export const " ++ e.wrapper ++ " = Schema.Enums(" ++ e.pascalName ++ ");",
      "export type " ++ e.pascalName ++ "Type = Schema.Schema.Type<typeof " ++ e.wrapper ++ ">;"]

end Enumeration

namespace BrandDecl

def name (b : BrandDecl) : String := Naming.brandName b.model

def text (b : BrandDecl) : String :=
  unlines [
    "// " ++ b.model ++ " Branded ID",
    "export const " ++ b.name ++ " = " ++ b.base.expression ++ ".pipe(Schema.brand(" ++
      quote b.name ++ "));",
    "export type " ++ b.name ++ " = typeof " ++ b.name ++ ".Type;"]

end BrandDecl

def operationalText (base name : String) : String :=
  "export const " ++ name ++ " = getSchemas(" ++ base ++ ");"

/-- What a row may be used for, and the member of an operational schema for it. -/
def operations : List (String × String) :=
  [("Select", "Selectable"), ("Insert", "Insertable"), ("Update", "Updateable")]

/-- The aliases of an operational schema: decoded types, then encoded types. -/
def aliasesText (name : String) : String :=
  let member (m : String) := "<typeof " ++ name ++ "." ++ m ++ ">;"
  unlines <|
    operations.map (fun o =>
      "export type " ++ name ++ o.1 ++ " = Schema.Schema.Type" ++ member o.2) ++
    operations.map (fun o =>
      "export type " ++ name ++ o.1 ++ "Encoded = Schema.Schema.Encoded" ++ member o.2)

namespace TableDecl

def names (t : TableDecl) : List String := [t.base, t.name]

def baseText (t : TableDecl) : String :=
  unlines <|
    t.comments ++ ["export const " ++ t.base ++ " = Schema.Struct(\x7b"] ++
    indent (t.columns.map fun c => c.1 ++ ": " ++ c.2 ++ ",") ++ ["\x7d);"]

def text (t : TableDecl) : String :=
  blocks [t.baseText, operationalText t.base t.name, aliasesText t.name]

end TableDecl

/-! ### Declarations of models and join tables -/

/-- The fields that are columns, in the order of their names. -/
def columnFields (fields : List Field) : List Field :=
  Text.sortedBy (·.name) (fields.filter fun f => !f.isRelation)

namespace Model

def columns (m : Model) : List Field := columnFields m.fields

/-- The branded identifier of a model with one identifier field. A model without any identifier is
an error. -/
def brand (m : Model) (d : Document) : Except RenderFailure (Option BrandDecl) := do
  let _ ← m.identifier
  match m.soleIdentifier? with
  | none => return none
  | some f => return some ⟨m.name, ← f.kindType d⟩

/-- The model whose brand its identifier field has. -/
def owner? (m : Model) : Option String := m.soleIdentifier?.map fun _ => m.name

/-- The foreign keys of a model to models of the scope. -/
def keysIn (m : Model) (s : Scope) : ForeignKeys := m.foreignKeys s.document (some s.modelNames)

def column (m : Model) (s : Scope) (f : Field) : Except RenderFailure (String × String) :=
  (fun e => (f.name, e)) <$> f.columnType s.document m.owner? (m.keysIn s)

def tableDecl (m : Model) (s : Scope) : Except RenderFailure TableDecl := do
  let columns ← m.columns.mapM (m.column s)
  return {
    comments := ["// " ++ m.name ++ " Base Schema"], base := "_" ++ m.name,
    name := Naming.pascal m.name, columns }

end Model

namespace JoinTable

/-- The column for a model's identifier. -/
def columnName (model : String) : String := Naming.snake model ++ "_id"

def tableDecl (t : JoinTable) : TableDecl :=
  let a := columnName t.modelA
  let b := columnName t.modelB
  { comments := [
      "// " ++ t.table ++ " Join Table Schema",
      "// Database columns: A (" ++ t.modelA ++ "), B (" ++ t.modelB ++ ")",
      "// TypeScript fields: " ++ a ++ ", " ++ b],
    base := t.table, name := Naming.pascal t.relation,
    columns := [(a, joinColumnType t.kindA t.uuidA "A"), (b, joinColumnType t.kindB t.uuidB "B")] }

end JoinTable

end SchemaTypes
