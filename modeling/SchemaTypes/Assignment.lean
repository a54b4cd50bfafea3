import SchemaTypes.Checked

/-!
# Setting attributes

A record may have attributes that can be set one by one, each checked alone, or none. Names that
start with a low line are free: setting one is never refused and changes nothing that a record
shows.
-/

namespace SchemaTypes

/-- Why an attribute keeps its value. -/
inductive Refusal where
  | invalid (issues : List Issue)
  /-- The attribute follows from others. -/
  | computed
deriving Repr, DecidableEq

/-- The outcome of setting an attribute. -/
abbrev Assigned (α : Type) := Except Refusal α

namespace Assigned

variable {α β : Type}

/-- Takes a checked value for the attribute. -/
def set (name : String) (c : Checked β) (f : β → α) : Assigned α :=
  match c.under (.key name) with
  | .good b => .ok (f b)
  | .bad is => .error (.invalid is)

def isFree (name : String) : Bool := name.toList.head? = some '_'

/-- Refuses a name, unless it is free. -/
def refuse (a : α) (name : String) (cause : Cause) : Assigned α :=
  if isFree name then .ok a else .error (.invalid [⟨[.key name], cause⟩])

/-- Setting something that the record does not have. -/
def unknown (a : α) (name : String) : Assigned α := refuse a name (.noSuchAttribute name)

/-- Setting something of a record that never changes. -/
def frozen (a : α) (name : String) : Assigned α := refuse a name .frozen

end Assigned

end SchemaTypes
