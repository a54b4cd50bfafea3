import SchemaTypes.Command.Argument

/-!
# Reading the arguments of the command

The arguments ask for a run, for the help text or for the version. Options act from left to right:
the first that asks for a text to show ends the reading, and the first error does too. What is left
over is reported only when all options are in order.
-/

namespace SchemaTypes.Command

inductive Request where
  | help
  | version
  | run (o : Options)
deriving Repr, DecidableEq

/-- How a group ends. -/
inductive Group.Last where
  | done
  /-- An option whose value stands in the next argument. -/
  | needing (s : Switch)
  | valued (s : Switch) (value : String)
  | unknown (text : String)
deriving Repr, DecidableEq

/-- What a group of letters in one argument says: the options of its letters, and how it ends. -/
structure Group where
  switches : List Switch := []
  last : Group.Last
deriving Repr

/-- Puts an option in front of a group. -/
def Group.cons (s : Switch) (g : Group) : Group := { g with switches := s :: g.switches }

/-- Reads the letters behind an option without a value. -/
def letters (s : Switch) : List Char → Except UsageError Group
  | [] => .ok ⟨[s], .done⟩
  | c :: cs =>
    if c = '-' then .error (.ignoredValue s (String.ofList (c :: cs)))
    else match Switch.ofLetter? c with
      | none => .ok ⟨[s], .unknown (String.ofList ('-' :: c :: cs))⟩
      | some next =>
        if next.takesValue then .ok ⟨[s], match cs with
          | [] => .needing next
          | '=' :: value => .valued next (String.ofList value)
          | cs => .valued next (String.ofList cs)⟩
        else match cs with
          | '=' :: value => .error (.ignoredValue next (String.ofList value))
          | cs => (letters next cs).map (.cons s)

/-- Reads an option and what stands behind it. -/
def group (s : Switch) (tail : Tail) : Except UsageError Group :=
  if s.takesValue then .ok ⟨[], match tail with
    | .nothing => .needing s
    | .joined cs => .valued s (String.ofList cs)
    | .assigned cs => .valued s (String.ofList cs)⟩
  else match tail with
    | .nothing => .ok ⟨[s], .done⟩
    | .joined cs => letters s cs
    | .assigned cs => .error (.ignoredValue s (String.ofList cs))

/-- What the options said so far. -/
structure Draft where
  /-- A text to show instead of a run. -/
  shown : Option Request := none
  schema : Option String := none
  /-- The options apart from the path of the document. -/
  options : Options := { schema := "" }
  /-- The arguments that no option takes. -/
  leftover : List String := []
deriving Repr

namespace Draft

def flag (d : Draft) (s : Switch) : Draft :=
  match s with
  | .help => { d with shown := d.shown.or (some .help) }
  | .version => { d with shown := d.shown.or (some .version) }
  | .dryRun => { d with options.dryRun := true }
  | .json => { d with options.json := true }
  | .multiDomain => { d with options.multiDomain := true }
  | .clean => { d with options.clean := true }
  | .verbose => { d with options.verbosity := d.options.verbosity + 1 }
  | .quiet => { d with options.quiet := true }
  | _ => d

def value (d : Draft) (s : Switch) (v : String) : Draft :=
  match s with
  | .schema => { d with schema := some v }
  | .output => { d with options.output := some v }
  | .runtimeModule => { d with options.runtimeModule := some v }
  | _ => d

def flags (d : Draft) (ss : List Switch) : Draft := ss.foldl flag d

/-- Adds an argument that no option takes. -/
def leave (d : Draft) (text : String) : Draft := { d with leftover := d.leftover ++ [text] }

def finish (d : Draft) : Except UsageError Request :=
  match d.shown, d.schema with
  | some r, _ => .ok r
  | none, none => .error (.missing .schema)
  | none, some path =>
    if d.leftover.isEmpty then .ok (.run { d.options with schema := path })
    else .error (.unrecognized d.leftover)

end Draft

/-- Reads arguments from left to right. A text to show ends the reading. -/
def follow (d : Draft) (as : List Argument) : Except UsageError Draft :=
  if d.shown.isSome then .ok d
  else match as with
    | [] => .ok d
    | .option s tail :: rest => match group s tail with
      | .error e => .error e
      | .ok ⟨ss, .done⟩ => follow (d.flags ss) rest
      | .ok ⟨ss, .unknown text⟩ => follow ((d.flags ss).leave text) rest
      | .ok ⟨ss, .valued s v⟩ => follow ((d.flags ss).value s v) rest
      | .ok ⟨ss, .needing s⟩ => match rest with
        | .operand v :: rest => follow ((d.flags ss).value s v) rest
        | _ => .error (.noValue s)
    | a :: rest => follow (d.leave a.text) rest

def request (args : List String) : Except UsageError Request := do
  (← follow {} (← arguments args)).finish

end SchemaTypes.Command
