import SchemaTypes.Relation.Pairing
import SchemaTypes.Schema.Document

/-!
# Scopes

What one set of files is generated for: the whole schema or some of its models. Internal models are
left out; the others, the enums and the join tables stand in the order of their names.
-/

namespace SchemaTypes

/-- What one set of files is generated for. -/
structure Scope where
  document : Document
  models : List Model
  enums : List Enumeration
  tables : List JoinTable
deriving Repr

/-- The models that are not internal, in the order of their names. -/
def publicModels (models : List Model) : List Model :=
  Text.sortedBy Model.name (models.filter fun m => !m.isInternal)

/-- The enums that fields of the models refer to. -/
def referredEnums (models : List Model) : List String :=
  (models.flatMap Model.fields).filterMap fun f =>
    if f.isEnum then f.enumName.filter (· ≠ "") else none

namespace Scope

/-- The scope of some models, or of all; `tables` are the join tables of the schema. A scope of
some models has the enums that they refer to. -/
def of (d : Document) (subset : Option (List Model)) (tables : List JoinTable) : Scope :=
  let models := publicModels (subset.getD d.models)
  let enums := match subset with
    | none => d.enums
    | some _ => d.enums.filter fun e => (referredEnums models).contains e.name
  { document := d, models, enums := Text.sortedBy Enumeration.name enums,
    tables := joinTablesTouching tables (models.map Model.name) }

/-- The scope of the whole schema. -/
def whole (d : Document) : Except RenderFailure Scope := of d none <$> joinTables d.models

def modelNames (s : Scope) : List String := s.models.map Model.name

end Scope

end SchemaTypes
