import SchemaTypes.Yaml.Fault
import SchemaTypes.Yaml.Node
import SchemaTypes.Yaml.Scalars

/-!
# Reading YAML

`Yaml.parse` gives the value of the only document of a text. Entries that a mapping merges come
before its own; an own entry replaces the value of a merged one and keeps its place. Of several
faults the shallowest counts.
-/

namespace SchemaTypes.Yaml

open Layered

namespace Node

def tagOf : Node → Tag
  | scalar t _ => t
  | sequence t _ => t
  | mapping t _ => t

/-- The entries that are not merge marks. -/
def ownEntries (es : List (Node × Node)) : List (Node × Node) :=
  es.filter fun e => e.1.tagOf ≠ .merge

mutual

/-- The entries that the merge marks of a mapping bring in. -/
def mergedEntries : List (Node × Node) → Fit (List (Node × Node))
  | [] => .ok []
  | (k, v) :: es =>
    if k.tagOf = .merge then do
      let first ← mergeSource v
      return first ++ (← mergedEntries es)
    else mergedEntries es

/-- The entries of a mapping, or of the mappings of a sequence. -/
def mergeSource : Node → Fit (List (Node × Node))
  | mapping _ es => do return (← mergedEntries es) ++ ownEntries es
  | sequence _ ns => mergeSources ns
  | scalar _ _ => .error .malformed

/-- The entries of several mappings, those of the last one first. -/
def mergeSources : List Node → Fit (List (Node × Node))
  | [] => .ok []
  | mapping _ es :: ns => do
    let first ← mergedEntries es
    return (← mergeSources ns) ++ (first ++ ownEntries es)
  | _ :: _ => .error .malformed

end

/-- The entries of a mapping node, merged ones first. -/
def entries : Node → Fit (List (Node × Node))
  | mapping _ es => do return (← mergedEntries es) ++ ownEntries es
  | _ => .error .malformed

mutual

/-- The text of a node that is used as a scalar. A mapping may hold it under the key for a value. -/
def scalarText : Node → Fit String
  | scalar _ s => .ok s
  | mapping _ es => valueText es
  | sequence _ _ => .error .malformed

/-- The text under the key for a value. -/
def valueText : List (Node × Node) → Fit String
  | [] => .error .malformed
  | (k, v) :: es => if k.tagOf = .value then scalarText v else valueText es

end

/-- The scalar that a node is as a key. A node that holds others is no key, whatever they are. -/
def keyOf (n : Node) (v : Layered Value) : Layered Scalar :=
  if n.tagOf = .value then .text <$> atOnce n.scalarText
  else match v with
    | .ok (.scalar s) => .ok s
    | .error ⟨0, e⟩ => .error ⟨0, e⟩
    | _ => atOnce (.error .malformed)

def toValue : (fuel : Nat) → Node → Layered Value
  | 0, _ => atOnce (.error .malformed)
  | fuel + 1, n =>
    let entriesOf (n : Node) : Layered Entries := do
      let es ← atOnce n.entries
      Entries.ofPairs <$> all (es.map fun e =>
        both (keyOf e.1 (toValue fuel e.1)) (toValue fuel e.2))
    let pairsOf (ns : List Node) : Layered (List Value) := all (ns.map fun
      | mapping _ [(k, v)] => do
        let (k, v) ← both (toValue fuel k) (toValue fuel v)
        return .list [k, v]
      | _ => atOnce (.error .malformed))
    match n.tagOf, n with
    | .sequence, sequence _ ns => .list <$> below (all (ns.map (toValue fuel)))
    | .sequence, _ => below (atOnce (.error .malformed))
    | .mapping, n => .mapping <$> below (entriesOf n)
    | .set, n => (fun es => .set (List.map (·.1) es)) <$> below (entriesOf n)
    | .pairs, sequence _ ns => .list <$> below (pairsOf ns)
    | .orderedMapping, sequence _ ns => .list <$> below (pairsOf ns)
    | .pairs, _ => below (atOnce (.error .malformed))
    | .orderedMapping, _ => below (atOnce (.error .malformed))
    | tag, n => .scalar <$> atOnce (n.scalarText >>= scalarOf tag)

end Node

/-- The value of the only document of a text; nothing where it has none. -/
def parse (cs : List Char) : Except Error Value := do
  let ts ← tokens cs
  match ← Node.ofTokens? ts with
  | none => return .null
  | some n => (n.toValue (ts.length + 2)).mapError (·.error)

end SchemaTypes.Yaml
