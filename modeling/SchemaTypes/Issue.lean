import SchemaTypes.Text.Shown

/-!
# Issues

What validation finds wrong with a value: the place of the part that is wrong, as the steps that
lead to it from the whole, and the cause.
-/

namespace SchemaTypes

/-- A step from a value to one of its parts. -/
inductive Step where
  | key (name : String)
  | index (i : Int)
deriving Repr, DecidableEq, Inhabited

/-- Why a record is refused although each of its attributes is in order. -/
inductive Conflict where
  | untargeted (field : String)
  | repeatedMembers (names : List String)
  | repeatedNames (noun : String) (names : List String)
  | misordered (table modelA modelB : String)
deriving Repr, DecidableEq

def Conflict.message : Conflict → String
  | untargeted field => s!"Relation field '{field}' is missing 'relation_target'."
  | repeatedMembers names => "Duplicate enum values detected: " ++ Text.shownList names
  | repeatedNames noun names => s!"Duplicate {noun} names: " ++ Text.shownList names
  | misordered table modelA modelB =>
    s!"Join table '{table}' participants must be in lexicographic order, got " ++
      Text.shown modelA ++ " / " ++ Text.shown modelB ++ "."

/-- What is wrong with a value. -/
inductive Cause where
  | missing
  | unexpected
  | keyNotText
  | notText
  | undecodable
  | emptyText
  | notTruth
  | unclearTruth
  | notKind
  | notTuple
  | notList
  | noItems
  | notRecord (title : String)
  | conflict (c : Conflict)
  | frozen
  | noSuchAttribute (name : String)
deriving Repr, DecidableEq

namespace Cause

/-- The short name of a cause. -/
def code : Cause → String
  | missing => "missing"
  | unexpected => "extra_forbidden"
  | keyNotText => "invalid_key"
  | notText => "string_type"
  | undecodable => "string_unicode"
  | emptyText => "string_too_short"
  | notTruth => "bool_type"
  | unclearTruth => "bool_parsing"
  | notKind => "enum"
  | notTuple => "tuple_type"
  | notList => "list_type"
  | noItems => "too_short"
  | notRecord _ => "model_type"
  | conflict _ => "value_error"
  | frozen => "frozen_instance"
  | noSuchAttribute _ => "no_such_attribute"

def message : Cause → String
  | missing => "Field required"
  | unexpected => "Extra inputs are not permitted"
  | keyNotText => "Keys should be strings"
  | notText => "Input should be a valid string"
  | undecodable => "Input should be a valid string, unable to parse raw data as a unicode string"
  | emptyText => "String should have at least 1 character"
  | notTruth => "Input should be a valid boolean"
  | unclearTruth => "Input should be a valid boolean, unable to interpret input"
  | notKind =>
    "Input should be 'String', 'Int', 'Float', 'Boolean', 'DateTime', 'BigInt', 'Decimal', " ++
      "'Bytes', 'Json', 'Enum' or 'Relation'"
  | notTuple => "Input should be a valid tuple"
  | notList => "Input should be a valid list"
  | noItems => "Tuple should have at least 1 item after validation, not 0"
  | notRecord title => s!"Input should be a valid dictionary or instance of {title}"
  | conflict c => "Value error, " ++ c.message
  | frozen => "Instance is frozen"
  | noSuchAttribute name => s!"Object has no attribute '{name}'"

end Cause

/-- Something wrong at a place. -/
structure Issue where
  place : List Step
  cause : Cause
deriving Repr, DecidableEq

namespace Issue

/-- The issue of a part, seen from the whole. -/
def under (step : Step) (i : Issue) : Issue := ⟨step :: i.place, i.cause⟩

/-- The line that opens a report on the issues of a record. -/
def headline (title : String) (issues : List Issue) : String :=
  s!"{issues.length} validation error" ++ (if issues.length = 1 then "" else "s") ++ s!" for {title}"

end Issue

end SchemaTypes
