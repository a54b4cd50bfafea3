import SchemaTypes.Keyed
import SchemaTypes.Relation.Identifier

/-!
# Foreign keys

A column is a foreign key when a relation pairs it with the sole identifier of its target.
-/

namespace SchemaTypes

/-- The targets of the foreign keys, by the name of the field. -/
abbrev ForeignKeys := Keyed String

namespace Model

/-- The target of a relation that names columns, if it is in the scope and has a sole
identifier. -/
def linkOf? (d : Document) (scope : Option (List String)) (f : Field) : Option (Model × Field) := do
  guard (f.isRelation && !f.fromFields.isEmpty)
  let target ← d.model? f.target
  guard (scope.all fun names => names.contains target.name)
  let key ← target.soleIdentifier?
  return (target, key)

/-- The fields of `m` that a relation pairs with the identifier of its target, with the target. -/
def keysOf (m : Model) (d : Document) (scope : Option (List String)) (f : Field) :
    List (String × String) :=
  match linkOf? d scope f with
  | none => []
  | some (target, key) =>
    (f.fromFields.zip f.toFields).filterMap fun pair =>
      if pair.2 = key.name && (m.field? pair.1).isSome then some (pair.1, target.name) else none

/-- The foreign keys of a model. Targets outside the scope do not count, where one is given. Of
several relations that use a field, the last one counts. -/
def foreignKeys (m : Model) (d : Document) (scope : Option (List String)) : ForeignKeys :=
  Keyed.ofList (m.fields.flatMap (m.keysOf d scope))

end Model

end SchemaTypes
