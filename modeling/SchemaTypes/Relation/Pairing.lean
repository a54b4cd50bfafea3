import SchemaTypes.Column.Uuid
import SchemaTypes.Relation.Identifier
import SchemaTypes.Schema.JoinTable

/-!
# Many-to-many relations

Two models are paired when each has a list of the other under one relation name and neither names
columns for it. The database keeps such a relation in a join table, which the schema does not
declare: `joinTables` infers it. A relation of a model with itself has none.
-/

namespace SchemaTypes

namespace Field

/-- A list of another model that names no columns. -/
def isImplicitList (f : Field) : Bool :=
  f.isRelation && f.isList && f.fromFields.isEmpty && f.toFields.isEmpty

/-- The name of the relation, unless it is empty. -/
def relation? (f : Field) : Option String := f.relationName.filter (· ≠ "")

end Field

namespace Model

/-- The first list under a relation name. -/
def listOf? (m : Model) (relation : String) : Option Field :=
  m.fields.find? fun f => f.relationName = some relation && f.isList

end Model

/-- Two models paired by a relation, the one with the lower name first. -/
structure Pairing where
  relation : String
  low : Model
  high : Model
  ordered : low.name < high.name
deriving Repr, DecidableEq

namespace Pairing

/-- The pairing of two models, which have to be two. -/
def of? (relation : String) (m n : Model) : Option Pairing :=
  if h : m.name < n.name then some ⟨relation, m, n, h⟩
  else if h : n.name < m.name then some ⟨relation, n, m, h⟩
  else none

/-- The pairing that a field of `m` declares: its target has to answer with a list of its own. -/
def declared? (models : List Model) (m : Model) (f : Field) : Option Pairing := do
  guard f.isImplicitList
  let relation ← f.relation?
  let target ← models.reverse.find? fun n => n.name = f.target
  let answer ← target.listOf? relation
  guard answer.isImplicitList
  of? relation m target

/-- The pairings that the fields declare, in order. -/
def declared (models : List Model) : List Pairing :=
  models.flatMap fun m => m.fields.filterMap (declared? models m)

/-- The pairings without those of a relation that came before. -/
def firsts : List Pairing → List Pairing
  | [] => []
  | p :: ps => p :: (firsts ps).filter fun q => q.relation ≠ p.relation

/-- The join table of a pairing. Both models need an identifier. -/
def joinTable (p : Pairing) : Except RenderFailure JoinTable := do
  let a ← p.low.identifier
  let b ← p.high.identifier
  return {
    table := "_" ++ p.relation, relation := p.relation, modelA := p.low.name, modelB := p.high.name,
    kindA := a.kind, kindB := b.kind, uuidA := a.isUuid, uuidB := b.isUuid, ordered := p.ordered }

end Pairing

/-- The join tables that the models imply, one for each relation, in the order of their names. -/
def joinTables (models : List Model) : Except RenderFailure (List JoinTable) :=
  (Text.sortedBy JoinTable.table) <$> (Pairing.firsts (Pairing.declared models)).mapM
    Pairing.joinTable

/-- The join tables with a participant of one of the names. -/
def joinTablesTouching (tables : List JoinTable) (names : List String) : List JoinTable :=
  tables.filter fun t => names.contains t.modelA || names.contains t.modelB

end SchemaTypes
