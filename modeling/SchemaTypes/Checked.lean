import SchemaTypes.Issue
import SchemaTypes.Value.Shown

/-!
# Checked values

`Checked α` is a value of `α` or the list of everything that is wrong with its source. Joining two
of them keeps the issues of both, the left ones first, so one pass over a record finds all that is
wrong with its attributes. A further check on a value runs only once the value is there.
-/

namespace SchemaTypes

/-- A value, or the issues that its source has. -/
inductive Checked (α : Type) where
  | good (a : α)
  | bad (issues : List Issue)
deriving Repr

namespace Checked

variable {α β : Type}

instance : Functor Checked where
  map f
    | good a => good (f a)
    | bad is => bad is

instance : Applicative Checked where
  pure := good
  seq f a := match f, a () with
    | good f, good a => good (f a)
    | good _, bad is => bad is
    | bad is, good _ => bad is
    | bad is, bad js => bad (is ++ js)

/-- A further check on a value. -/
def andThen (a : Checked α) (f : α → Checked β) : Checked β :=
  match a with
  | good a => f a
  | bad is => bad is

/-- One issue with the whole value. -/
def fail (cause : Cause) : Checked α := bad [⟨[], cause⟩]

/-- The issues of a part, seen from the whole. -/
def under (step : Step) : Checked α → Checked α
  | good a => good a
  | bad is => bad (is.map (Issue.under step))

def toOption : Checked α → Option α
  | good a => some a
  | bad _ => none

def toExcept : Checked α → Except (List Issue) α
  | good a => .ok a
  | bad is => .error is

def issues : Checked α → List Issue
  | good _ => []
  | bad is => is

/-- Checks each item of a list at its index. -/
def each (check : Value → Checked α) : (start : Nat) → List Value → Checked (List α)
  | _, [] => good []
  | start, x :: xs =>
    List.cons <$> (check x).under (.index start) <*> each check (start + 1) xs

/-! ### Scalars -/

def decode? (bs : List UInt8) : Option String := String.fromUTF8? ⟨bs.toArray⟩

/-- A text; bytes stand for the text that they encode. -/
def text : Value → Checked String
  | .text s => good s
  | .scalar (.bytes bs) => match decode? bs with
    | some s => good s
    | none => fail .undecodable
  | _ => fail .notText

abbrev Named := { s : String // s ≠ "" }

theorem Named.ne (n : Named) : n.1 ≠ "" := n.2

def name (v : Value) : Checked Named :=
  (text v).andThen fun s => if h : s ≠ "" then good ⟨s, h⟩ else fail .emptyText

/-- A text, or nothing. -/
def optionalText : Value → Checked (Option String)
  | .null => good none
  | v => some <$> text v

/-- The spellings of the truth values, in lower case. -/
def truthWords : List (String × Bool) :=
  [("0", false), ("off", false), ("f", false), ("false", false), ("n", false), ("no", false),
    ("1", true), ("on", true), ("t", true), ("true", true), ("y", true), ("yes", true)]

/-- The truth value that a text spells, in any letter case. -/
def truthOfText (s : String) : Checked Bool :=
  match truthWords.lookup (String.ofList (s.toList.map Char.toLower)) with
  | some b => good b
  | none => fail .unclearTruth

/-- The whole number fits 64 bits. -/
def isSmall (n : Int) : Bool := -9223372036854775808 ≤ n && n < 9223372036854775808

/-- A truth value: a boolean, the number 0 or 1, or a spelling of one. -/
def truth : Value → Checked Bool
  | .bool b => good b
  | .text s => truthOfText s
  | .scalar (.bytes bs) => match decode? bs with
    | some s => truthOfText s
    | none => fail .unclearTruth
  | .int n =>
    if n = 0 then good false
    else if n = 1 then good true
    else if isSmall n then fail .unclearTruth
    else fail .notTruth
  | .scalar (.float x) =>
    if x == 0.0 then good false else if x == 1.0 then good true else fail .notTruth
  | _ => fail .notTruth

/-! ### Sequences and records -/

def items? : Value → Option (List Value)
  | .list xs => some xs
  | .set xs => some (xs.map .scalar)
  | _ => none

/-- A sequence that never changes: its items, each checked at its index. -/
def tuple (check : Value → Checked α) (v : Value) : Checked (List α) :=
  match items? v with
  | some xs => each check 0 xs
  | none => fail .notTuple

/-- A sequence: its items, each checked at its index. -/
def list (check : Value → Checked α) (v : Value) : Checked (List α) :=
  match items? v with
  | some xs => each check 0 xs
  | none => fail .notList

/-- The names of an attribute of a record: one that it has in the program, and where documents
spell it differently, one that it has there. -/
structure Attribute where
  name : String
  inDocuments : String := name
deriving Repr, DecidableEq

/-- The key that the attribute stands under, and its value. The name in documents goes first. -/
def Attribute.find? (a : Attribute) (es : Entries) : Option (String × Value) :=
  match es.get? a.inDocuments with
  | some v => some (a.inDocuments, v)
  | none => (es.get? a.name).map fun v => (a.name, v)

/-- An attribute that has to be there. -/
def needed (es : Entries) (a : Attribute) (check : Value → Checked α) : Checked α :=
  match a.find? es with
  | some (key, v) => (check v).under (.key key)
  | none => bad [⟨[.key a.inDocuments], .missing⟩]

/-- An attribute that is `absent` where it is not given. -/
def given (es : Entries) (a : Attribute) (absent : α) (check : Value → Checked α) : Checked α :=
  match a.find? es with
  | some (key, v) => (check v).under (.key key)
  | none => good absent

/-- The step to a key. -/
def stepTo : Scalar → Step
  | .text s => .key s
  | .bool b => .index (if b then 1 else 0)
  | .int n => if isSmall n then .index n else .key (toString n)
  | s => .key s.shown

/-- The keys that no attribute stands under, each an issue. -/
def strangers (attributes : List Attribute) (es : Entries) : List Issue :=
  let used := attributes.filterMap fun a => (a.find? es).map (·.1)
  es.filterMap fun e => match e.1 with
    | .text s => if used.contains s then none else some ⟨[.key s], .unexpected⟩
    | k => some ⟨[stepTo k], .keyNotText⟩

/-- Reports the keys that no attribute stands under, after the issues of the attributes. -/
def closed (attributes : List Attribute) (es : Entries) (a : Checked α) : Checked α :=
  match strangers attributes es with
  | [] => a
  | is => bad (a.issues ++ is)

def record (title : String) (v : Value) (check : Entries → Checked α) : Checked α :=
  match v with
  | .mapping es => check es
  | _ => fail (.notRecord title)

end Checked

end SchemaTypes
