import SchemaTypes.Decimal.Binary

/-!
# Document values

What a JSON or YAML text holds: scalars, lists, mappings that keep the order of their keys, and
sets. The key of a mapping is a scalar, as no other value may be one.
-/

namespace SchemaTypes

/-- The time of a moment; `offset` is the distance from universal time in seconds. -/
structure Clock where
  hour : Nat
  minute : Nat
  second : Nat
  micro : Nat
  offset : Option Int
deriving Repr, DecidableEq, Inhabited

/-- A day, or a moment on it. -/
structure Moment where
  year : Nat
  month : Nat
  day : Nat
  clock : Option Clock := none
deriving Repr, DecidableEq, Inhabited

/-- Values without parts. -/
inductive Scalar where
  | null
  | bool (b : Bool)
  | int (n : Int)
  | float (x : Float)
  | text (s : String)
  | moment (m : Moment)
  | bytes (bs : List UInt8)
deriving Repr, BEq, Inhabited

inductive Value where
  | scalar (s : Scalar)
  | list (xs : List Value)
  | mapping (es : List (Scalar × Value))
  | set (xs : List Scalar)
deriving Repr, BEq, Inhabited

/-- The entries of a mapping, in order. -/
abbrev Entries := List (Scalar × Value)

namespace Scalar

/-- The whole number that a scalar equals: booleans count as 0 and 1. -/
def whole? : Scalar → Option Int
  | bool b => some (if b then 1 else 0)
  | int n => some n
  | float x => (Decimal.Binary.ofFloat x).toInt?
  | _ => none

/-- Two scalars are one key: numbers are compared by value, everything else by kind and content. -/
def sameKey (a b : Scalar) : Bool :=
  match a.whole?, b.whole? with
  | some m, some n => m == n
  | none, none => a == b
  | _, _ => false

end Scalar

namespace Value

@[match_pattern] abbrev null : Value := scalar .null

@[match_pattern] abbrev text (s : String) : Value := scalar (.text s)

@[match_pattern] abbrev bool (b : Bool) : Value := scalar (.bool b)

@[match_pattern] abbrev int (n : Int) : Value := scalar (.int n)

def ofText? (s : Option String) : Value := (s.map text).getD null

def texts (xs : List String) : Value := list (xs.map text)

/-- A mapping with texts as keys. -/
def record (es : List (String × Value)) : Value := mapping (es.map fun e => (.text e.1, e.2))

def isNull : Value → Bool
  | null => true
  | _ => false

/-- The value does not count as given: it is absent, false, zero, or empty. -/
def isVoid : Value → Bool
  | null => true
  | bool b => !b
  | int n => n == 0
  | scalar (.float x) => x == 0.0
  | text s => s == ""
  | scalar (.moment _) => false
  | scalar (.bytes bs) => bs.isEmpty
  | list xs => xs.isEmpty
  | mapping es => es.isEmpty
  | set xs => xs.isEmpty

end Value

namespace Entries

def find? (es : Entries) (key : Scalar) : Option Value :=
  (List.find? (fun e => e.1.sameKey key) es).map (·.2)

def get? (es : Entries) (key : String) : Option Value := es.find? (.text key)

def get (es : Entries) (key : String) : Value := (es.get? key).getD .null

def hasKey (es : Entries) (key : String) : Bool := (es.get? key).isSome

/-- Sets a key: in its place when it is there, else at the end. -/
def put : Entries → Scalar → Value → Entries
  | [], k, v => [(k, v)]
  | e :: es, k, v => if e.1.sameKey k then (e.1, v) :: es else e :: put es k v

/-- Sets the keys of `new`, in order. -/
def putAll (es new : Entries) : Entries := List.foldl (fun m e => put m e.1 e.2) es new

/-- The mapping that a list of keys and values builds: a repeated key keeps its first place and
takes its last value. -/
def ofPairs (ps : Entries) : Entries := putAll [] ps

end Entries

end SchemaTypes
