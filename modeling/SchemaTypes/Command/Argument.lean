import SchemaTypes.Command.Options
import SchemaTypes.Text.Digit

/-!
# Arguments

Each argument of the command, seen alone: an option with what stands behind it, or an operand. A
long name may be cut short as long as only one option starts that way, and a letter may be followed
by its value or by further letters. An argument that looks like an option and is none is unknown,
unless it is a negative number or holds a space.
-/

namespace SchemaTypes.Command

/-- What stands behind the name of an option in the same argument. -/
inductive Tail where
  | nothing
  /-- Text right behind a letter. -/
  | joined (text : List Char)
  /-- Text behind an equals sign. -/
  | assigned (text : List Char)
deriving Repr, DecidableEq

inductive Argument where
  | operand (text : String)
  /-- Two hyphens: what follows are operands. -/
  | terminator
  | option (s : Switch) (tail : Tail)
  | unknown (text : String)
deriving Repr, DecidableEq

namespace Argument

def allDigits (cs : List Char) : Bool := cs.all Text.isDecimal

/-- The text behind a hyphen makes a number. A line break may follow. -/
def isNumber (cs : List Char) : Bool :=
  let cs := if cs.getLast? = some '\n' then cs.dropLast else cs
  match cs.span Text.isDecimal with
  | (ds, []) => !ds.isEmpty
  | (_, '.' :: ds) => !ds.isEmpty && allDigits ds
  | _ => false

/-- An argument behind a hyphen that names no option. -/
def unnamed (text : String) (afterHyphen : List Char) : Argument :=
  if isNumber afterHyphen || text.toList.contains ' ' then .operand text else .unknown text

/-- The text before the first equals sign, and the text behind it. -/
def cutEquals (cs : List Char) : List Char × Tail :=
  match cs.span (· ≠ '=') with
  | (name, '=' :: value) => (name, .assigned value)
  | (name, _) => (name, .nothing)

/-- An argument that starts with two hyphens and has more. -/
def ofLong (text : String) (cs : List Char) : Except UsageError Argument :=
  let (name, tail) := cutEquals cs
  match Switch.ofLongName? name with
  | some s => .ok (.option s tail)
  | none => match Switch.startingWith name with
    | [s] => .ok (.option s tail)
    | [] => .ok (unnamed text ('-' :: cs))
    | candidates => .error (.ambiguous text candidates)

/-- An argument that starts with one hyphen and has more. -/
def ofShort (text : String) (c : Char) (cs : List Char) : Argument :=
  match Switch.ofLetter? c with
  | none => unnamed text (c :: cs)
  | some s => match cs with
    | [] => .option s .nothing
    | '=' :: value => .option s (.assigned value)
    | cs => .option s (.joined cs)

def ofText (text : String) : Except UsageError Argument :=
  match text.toList with
  | ['-', '-'] => .ok .terminator
  | '-' :: '-' :: cs => ofLong text cs
  | '-' :: c :: cs => .ok (ofShort text c cs)
  | _ => .ok (.operand text)

/-- The text of an argument that is no option. -/
def text : Argument → String
  | operand text => text
  | unknown text => text
  | terminator => "--"
  | option s _ => s.long

end Argument

/-- Reads arguments up to two hyphens; what stands behind them are operands. -/
def arguments : List String → Except UsageError (List Argument)
  | [] => .ok []
  | s :: rest => do
    match ← Argument.ofText s with
    | .terminator => return .terminator :: rest.map .operand
    | a => return a :: (← arguments rest)

end SchemaTypes.Command
