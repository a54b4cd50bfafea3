import SchemaTypes.Schema.Kind

/-!
# Join tables

The table behind a many-to-many relation. Its columns `A` and `B` hold the identifiers of two
models, the one with the lower name in `A`.
-/

namespace SchemaTypes

/-- The table behind a many-to-many relation. -/
@[ext] structure JoinTable where
  table : String
  relation : String
  modelA : String
  modelB : String
  kindA : Kind
  kindB : Kind
  /-- The identifier in column `A` is a UUID. -/
  uuidA : Bool := false
  /-- The identifier in column `B` is a UUID. -/
  uuidB : Bool := false
  ordered : modelA < modelB := by decide
deriving Repr

instance : DecidableEq JoinTable := fun _ _ => decidable_of_iff _ JoinTable.ext_iff.symm

namespace JoinTable

def attributes : List Checked.Attribute := [
  { name := "table_name" }, { name := "relation_name" }, { name := "model_a" }, { name := "model_b" },
  { name := "column_a_kind" }, { name := "column_b_kind" }, { name := "column_a_is_uuid" },
  { name := "column_b_is_uuid" }]

/-- The attributes of a join table before their order is known. -/
abbrev Parts := (String × String) × (String × String) × (Kind × Kind) × Bool × Bool

/-- The attributes from the entries of a mapping. -/
def checkParts (es : Entries) : Checked Parts :=
  (fun table relation a b kindA kindB uuidA uuidB =>
    ((table, relation), (a, b), (kindA, kindB), uuidA, uuidB))
  <$> Checked.needed es { name := "table_name" } Checked.text
  <*> Checked.needed es { name := "relation_name" } Checked.text
  <*> Checked.needed es { name := "model_a" } Checked.text
  <*> Checked.needed es { name := "model_b" } Checked.text
  <*> Checked.needed es { name := "column_a_kind" } Kind.check
  <*> Checked.needed es { name := "column_b_kind" } Kind.check
  <*> Checked.given es { name := "column_a_is_uuid" } false Checked.truth
  <*> Checked.given es { name := "column_b_is_uuid" } false Checked.truth

def check (v : Value) : Checked JoinTable :=
  (Checked.record "JoinTableDescriptor" v fun es =>
    Checked.closed attributes es (checkParts es)).andThen
  fun ((table, relation), (a, b), (kindA, kindB), uuidA, uuidB) =>
    if h : a < b then
      .good { table, relation, modelA := a, modelB := b, kindA, kindB, uuidA, uuidB, ordered := h }
    else .fail (.conflict (.misordered table a b))

def toValue (t : JoinTable) : Value := .record [
  ("table_name", .text t.table), ("relation_name", .text t.relation), ("model_a", .text t.modelA),
  ("model_b", .text t.modelB), ("column_a_kind", .text t.kindA.word),
  ("column_b_kind", .text t.kindB.word), ("column_a_is_uuid", .bool t.uuidA),
  ("column_b_is_uuid", .bool t.uuidB)]

def brief (t : JoinTable) : String := s!"<JoinTable {t.table} A={t.modelA} B={t.modelB}>"

end JoinTable

end SchemaTypes
