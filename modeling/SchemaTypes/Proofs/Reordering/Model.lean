import SchemaTypes.Code.Declaration
import SchemaTypes.Proofs.Lookup
import SchemaTypes.Proofs.Sorting

/-!
# A model with its fields in another order

When no two fields of a model have one name and at most one is marked as the identifier, looking
fields up, finding the identifier and sorting the columns do not depend on the order of the fields.
-/

namespace SchemaTypes.Model

/-- `n` is the model `m` with its fields in another order. -/
structure Reordered (m n : Model) : Prop where
  name : n.name = m.name
  dbName : n.dbName = m.dbName
  primaryKey : n.primaryKey = m.primaryKey
  location : n.location = m.location
  fields : n.fields.Perm m.fields

/-- Field names are distinct, and at most one field is marked as the identifier. -/
structure Unambiguous (m : Model) : Prop where
  names : (m.fields.map (·.name)).Nodup
  identifier : m.markedFields.length ≤ 1

theorem eq_of_perm_of_length_le_one {α : Type} {xs ys : List α} (h : xs.Perm ys) (hl : ys.length ≤ 1) :
    xs = ys := by
  match ys with
  | [] => exact h.eq_nil
  | [y] => exact h.eq_singleton
  | _ :: _ :: _ => simp at hl

namespace Reordered
variable {m n : Model} {f : Field}

theorem mem_fields (h : m.Reordered n) : f ∈ n.fields ↔ f ∈ m.fields := h.fields.mem_iff

theorem isInternal (h : m.Reordered n) : n.isInternal = m.isInternal := by
  rw [Model.isInternal, Model.isInternal, h.name]

theorem table (h : m.Reordered n) : n.table = m.table := by
  rw [Model.table, Model.table, h.dbName, h.name]

theorem names_nodup (h : m.Reordered n) (hm : m.Unambiguous) : (n.fields.map (·.name)).Nodup :=
  (h.fields.map _).nodup_iff.2 hm.names

theorem field? (h : m.Reordered n) (hm : m.Unambiguous) (name : String) :
    n.field? name = m.field? name := by
  refine Option.ext fun f => ?_
  rw [field?_eq_some (h.names_nodup hm), field?_eq_some hm.names, h.mem_fields]

theorem markedFields (h : m.Reordered n) (hm : m.Unambiguous) : n.markedFields = m.markedFields :=
  eq_of_perm_of_length_le_one (h.fields.filter _) hm.identifier

theorem soleIdentifier? (h : m.Reordered n) (hm : m.Unambiguous) :
    n.soleIdentifier? = m.soleIdentifier? := by
  rw [Model.soleIdentifier?, Model.soleIdentifier?, h.markedFields hm]

theorem identifier (h : m.Reordered n) (hm : m.Unambiguous) : n.identifier = m.identifier := by
  have hmarked : n.fields.find? (·.isId) = m.fields.find? (·.isId) := by
    rw [← List.head?_filter, ← List.head?_filter]
    exact congrArg List.head? (h.markedFields hm)
  have hfield : n.field? = m.field? := funext (h.field? hm)
  rw [Model.identifier, Model.identifier, identifier?, identifier?, hmarked, h.primaryKey, hfield, h.name]

theorem columns (h : m.Reordered n) (hm : m.Unambiguous) : n.columns = m.columns := by
  have hnames : ((n.fields.filter fun f => !f.isRelation).map (·.name)).Nodup :=
    (h.names_nodup hm).sublist (List.filter_sublist.map _)
  exact Text.sortedBy_eq_of_perm hnames (h.fields.filter _)

theorem owner? (h : m.Reordered n) (hm : m.Unambiguous) : n.owner? = m.owner? := by
  rw [Model.owner?, Model.owner?, h.soleIdentifier? hm, h.name]

end Reordered

end SchemaTypes.Model
