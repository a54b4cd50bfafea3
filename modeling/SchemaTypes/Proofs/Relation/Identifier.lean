import SchemaTypes.Proofs.Lookup

/-!
# Identified models

`Identified` says on the fields of a model when it has an identifier: a field is marked as one, or
the composite identifier starts with the name of a field.
-/

namespace SchemaTypes.Model

variable {m : Model} {f : Field}

/-- The model marks an identifier, or its composite identifier starts with one of its fields. -/
def Identified (m : Model) : Prop :=
  (∃ f ∈ m.fields, f.isId) ∨ ∃ name, m.primaryKey.head? = some name ∧ ∃ f ∈ m.fields, f.name = name

theorem mem_markedFields : f ∈ m.markedFields ↔ f ∈ m.fields ∧ f.isId := by
  simp [markedFields]

theorem identifier?_isSome : m.identifier?.isSome ↔ m.Identified := by
  simp only [identifier?, Identified, Option.isSome_or, Bool.or_eq_true, List.find?_isSome,
    Option.isSome_bind, Option.any_eq_true, field?_isSome]

theorem identifier_eq_ok : m.identifier = .ok f ↔ m.identifier? = some f := by
  unfold identifier
  cases m.identifier? <;> simp

theorem exists_identifier_eq_ok : (∃ f, m.identifier = .ok f) ↔ m.Identified := by
  simp only [identifier_eq_ok, ← identifier?_isSome, Option.isSome_iff_exists]

end SchemaTypes.Model
