import SchemaTypes.Yaml.Scalars

/-!
# Faults by layers

The values of a document are made layer by layer, the nodes nearest to its root first. So of several
faults the one with the fewest nodes above it counts, and of those the first in the text. A reading
is put together from the readings of its parts by `both`, `all` and `below`, which keep that one.
-/

namespace SchemaTypes.Yaml

/-- A fault, and the number of nodes above its place. -/
structure Fault where
  depth : Nat
  error : Error
deriving Repr, DecidableEq

/-- The fault that counts, when `a` stands before `b`. -/
def Fault.first (a b : Fault) : Fault := if b.depth < a.depth then b else a

/-- A reading that gives the fault that counts. -/
abbrev Layered := Except Fault

namespace Layered

variable {α β : Type}

/-- A reading without parts. -/
def atOnce : Fit α → Layered α
  | .ok a => .ok a
  | .error e => .error ⟨0, e⟩

/-- A reading one layer further down. -/
def below : Layered α → Layered α
  | .ok a => .ok a
  | .error f => .error ⟨f.depth + 1, f.error⟩

/-- Two readings side by side. -/
def both : Layered α → Layered β → Layered (α × β)
  | .ok a, .ok b => .ok (a, b)
  | .ok _, .error f => .error f
  | .error e, .ok _ => .error e
  | .error e, .error f => .error (e.first f)

/-- Readings side by side. -/
def all : List (Layered α) → Layered (List α)
  | [] => .ok []
  | x :: xs => (fun p => p.1 :: p.2) <$> both x (all xs)

end Layered

end SchemaTypes.Yaml
