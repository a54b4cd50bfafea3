import SchemaTypes.Text.Shown

/-!
# Options of the command

What the command can be asked for, how each option is spelled, and what is wrong with arguments
that cannot be read.
-/

namespace SchemaTypes.Command

inductive Switch where
  | help
  | version
  | schema
  | output
  | dryRun
  | json
  | multiDomain
  | runtimeModule
  | clean
  | verbose
  | quiet
deriving Repr, DecidableEq, Inhabited

namespace Switch

/-- All options, in the order in which they are told. -/
def all : List Switch :=
  [help, version, schema, output, dryRun, json, multiDomain, runtimeModule, clean, verbose, quiet]

/-- The long name, written behind two hyphens. -/
def longName : Switch → String
  | help => "help"
  | version => "version"
  | schema => "schema"
  | output => "output"
  | dryRun => "dry-run"
  | json => "json"
  | multiDomain => "multi-domain"
  | runtimeModule => "runtime-module"
  | clean => "clean"
  | verbose => "verbose"
  | quiet => "quiet"

/-- The letter, written behind one hyphen. -/
def letter? : Switch → Option Char
  | help => some 'h'
  | schema => some 's'
  | output => some 'o'
  | verbose => some 'v'
  | quiet => some 'q'
  | _ => none

def takesValue : Switch → Bool
  | schema => true
  | output => true
  | runtimeModule => true
  | _ => false

def long (s : Switch) : String := "--" ++ s.longName

def label (s : Switch) : String :=
  match s.letter? with
  | some c => "-" ++ String.singleton c ++ "/" ++ s.long
  | none => s.long

def ofLetter? (c : Char) : Option Switch := all.find? fun s => s.letter? = some c

/-- The options whose long name starts with a text. -/
def startingWith (start : List Char) : List Switch :=
  all.filter fun s => start.isPrefixOf s.longName.toList

def ofLongName? (name : List Char) : Option Switch := all.find? fun s => s.longName.toList = name

end Switch

/-- What a run of the command is asked for. -/
structure Options where
  /-- The path of the document. -/
  schema : String
  output : Option String := none
  dryRun : Bool := false
  json : Bool := false
  multiDomain : Bool := false
  runtimeModule : Option String := none
  clean : Bool := false
  verbosity : Nat := 0
  quiet : Bool := false
deriving Repr, DecidableEq

/-- What is wrong with the arguments of the command. -/
inductive UsageError where
  | ambiguous (argument : String) (candidates : List Switch)
  | ignoredValue (option : Switch) (value : String)
  | noValue (option : Switch)
  | missing (option : Switch)
  | unrecognized (arguments : List String)
deriving Repr, DecidableEq

def UsageError.message : UsageError → String
  | ambiguous argument candidates =>
    s!"ambiguous option: {argument} could match " ++ ", ".intercalate (candidates.map Switch.long)
  | ignoredValue option value =>
    s!"argument {option.label}: ignored explicit argument " ++ Text.shown value
  | noValue option => s!"argument {option.label}: expected one argument"
  | missing option => s!"the following arguments are required: {option.label}"
  | unrecognized arguments => "unrecognized arguments: " ++ " ".intercalate arguments

end SchemaTypes.Command
