/-!
# Values by name

Lists of names and values in which each name stands once. Putting a value under a name that is
there keeps the place of the name.
-/

namespace SchemaTypes

/-- Values by name, in order. -/
abbrev Keyed (α : Type) := List (String × α)

namespace Keyed

variable {α : Type}

/-- Sets the value of a name: in its place when it is there, else at the end. -/
def put : Keyed α → String → α → Keyed α
  | [], name, a => [(name, a)]
  | e :: es, name, a => if e.1 = name then (name, a) :: es else e :: put es name a

/-- Sets the names of a list, one after the other. -/
def ofList (es : List (String × α)) : Keyed α := es.foldl (fun m e => put m e.1 e.2) []

def get? : Keyed α → String → Option α
  | [], _ => none
  | e :: es, name => if e.1 = name then some e.2 else get? es name

def names (es : Keyed α) : List String := es.map (·.1)

theorem get?_put (es : Keyed α) (name other : String) (a : α) :
    get? (put es name a) other = if name = other then some a else get? es other := by
  induction es with
  | nil => simp [put, get?]
  | cons e es ih =>
    by_cases h : e.1 = name <;> by_cases h' : e.1 = other <;>
      simp_all [put, get?]
    rintro rfl; exact absurd rfl h

theorem names_put (es : Keyed α) (name : String) (a : α) :
    names (put es name a) = if name ∈ names es then names es else names es ++ [name] := by
  induction es with
  | nil => simp [put, names]
  | cons e es ih =>
    by_cases h : e.1 = name
    · subst h; simp [put, names]
    · by_cases h' : name ∈ names es <;> simp_all [put, names, Ne.symm h]

end Keyed

end SchemaTypes
