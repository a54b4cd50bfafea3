import SchemaTypes.Failure
import SchemaTypes.Schema.Document

/-!
# Identifiers of models

A model is identified by a field marked as its identifier, or by the first field of a composite
identifier.
-/

namespace SchemaTypes.Model

/-- The fields that are marked as the identifier. -/
def markedFields (m : Model) : List Field := m.fields.filter (·.isId)

def identifier? (m : Model) : Option Field :=
  (m.fields.find? (·.isId)).or (m.primaryKey.head?.bind m.field?)

/-- The identifier of the model. -/
def identifier (m : Model) : Except RenderFailure Field :=
  match m.identifier? with
  | some f => .ok f
  | none => .error (.missingIdentifier m.name)

/-- The identifier of a model that marks exactly one field. -/
def soleIdentifier? (m : Model) : Option Field :=
  match m.markedFields with
  | [f] => some f
  | _ => none

theorem soleIdentifier?_eq_some {m : Model} {f : Field} :
    m.soleIdentifier? = some f ↔ m.markedFields = [f] := by
  unfold soleIdentifier?
  split <;> simp_all

end SchemaTypes.Model
