import SchemaTypes.Yaml.Plain
import SchemaTypes.Yaml.Token

/-!
# Nodes of a YAML document

The tree that tokens describe: scalars, sequences and mappings, each with its tag. An alias is
replaced by the node whose anchor it names, so the tree has no aliases left. A text holds one
document.
-/

namespace SchemaTypes.Yaml

inductive Node where
  | scalar (tag : Tag) (text : String)
  | sequence (tag : Tag) (items : List Node)
  | mapping (tag : Tag) (entries : List (Node × Node))

namespace Node

def empty : Node := scalar .null ""

instance : Inhabited Node := ⟨empty⟩

/-- What is known while tokens are read. -/
structure State where
  tokens : List Token
  /-- What the handles of tags stand for. -/
  handles : List (String × String) := []
  anchors : List (String × Node) := []

/-- Reading of a part of a document. -/
abbrev Reader := StateT State (Except Error)

/-- The token in front. -/
def peek : Reader (Option Token) := do return (← get).tokens.head?

/-- Takes the token in front away. -/
def drop : Reader Unit := modify fun s => { s with tokens := s.tokens.tail }

/-- Takes the token in front away if it is `t`. -/
def accept (t : Token) : Reader Bool := do
  if (← peek) = some t then
    drop
    return true
  else return false

/-- Takes the token in front away; it has to be `t`. -/
def expect (t : Token) : Reader Unit := do
  if !(← accept t) then throw .malformed

/-- The token in front is one of some. -/
def facing (ts : List Token) : Reader Bool := do return (← peek).any ts.contains

/-- The address of a tag: that of its handle, then its suffix. -/
def addressOf (handle : Option String) (suffix : String) : Reader String := do
  match handle with
  | none => return suffix
  | some h => match (← get).handles.lookup h with
    | none => throw .malformed
    | some start => return start ++ suffix

/-- What stands in front of a node: an anchor and a tag, in either order. -/
structure Properties where
  anchor : Option String := none
  tag : Option String := none

def anchor? : Reader (Option String) := do
  match ← peek with
  | some (.anchor n) => do
    drop
    return some n
  | _ => return none

def tag? : Reader (Option String) := do
  match ← peek with
  | some (.tag h s) => do
    drop
    return some (← addressOf h s)
  | _ => return none

/-- What stands in front of a node. -/
def properties : Reader Properties := do
  match ← anchor? with
  | some a => return ⟨some a, ← tag?⟩
  | none => match ← tag? with
    | some t => return ⟨← anchor?, some t⟩
    | none => return {}

namespace Properties

/-- The tag does not say what the node is. -/
def isOpen (p : Properties) : Bool := p.tag.all (· = "!")

/-- The tag, or what the node has without one. -/
def tagOr (p : Properties) (t : Tag) : Tag :=
  if p.isOpen then t else tagOf (p.tag.getD "")

/-- The tag of a scalar. A plain one without a tag says itself what it is, and so does one with a
tag that leaves it open. -/
def scalarTag (p : Properties) (text : String) (isPlain : Bool) : Tag :=
  if p.tag.isNone && !isPlain then .text else p.tagOr (Plain.tag text)

end Properties

/-- Keeps a node under its anchor; an anchor stands once in a document. -/
def keep (p : Properties) (n : Node) : Reader Node := do
  match p.anchor with
  | none => return n
  | some a =>
    if ((← get).anchors.lookup a).isSome then throw .malformed
    modify fun s => { s with anchors := (a, n) :: s.anchors }
    return n

def named (a : String) : Reader Node := do
  match (← get).anchors.lookup a with
  | some n => return n
  | none => throw .malformed

/-- Where a node may stand. -/
inductive Place where
  /-- In a block. -/
  | block
  /-- In a mapping of a block, where a sequence needs no indentation. -/
  | blockEntry
  /-- Between brackets. -/
  | flow
deriving Repr, DecidableEq

mutual

def node (place : Place) : (fuel : Nat) → Reader Node
  | 0 => throw .malformed
  | fuel + 1 => do
    match ← peek with
    | some (.alias a) => do
      drop
      named a
    | _ => do
      let p ← properties
      match place, ← peek with
      | .blockEntry, some .blockEntry =>
        do keep p (.sequence (p.tagOr .sequence) (← looseItems fuel))
      | _, some (.scalar text isPlain) => do
        drop
        keep p (.scalar (p.scalarTag text isPlain) text)
      | _, some .flowSequenceStart => do
        drop
        keep p (.sequence (p.tagOr .sequence) (← flowItems true fuel))
      | _, some .flowMappingStart => do
        drop
        keep p (.mapping (p.tagOr .mapping) (← flowEntries true fuel))
      | .flow, _ => unwritten p
      | _, some .blockSequenceStart => do
        drop
        keep p (.sequence (p.tagOr .sequence) (← blockItems fuel))
      | _, some .blockMappingStart => do
        drop
        keep p (.mapping (p.tagOr .mapping) (← blockEntries fuel))
      | _, _ => unwritten p

/-- A node of which only the properties are written. -/
def unwritten (p : Properties) : Reader Node :=
  if p.anchor.isSome || p.tag.isSome then keep p (.scalar (p.tagOr .null) "")
  else throw .malformed

/-- A node, or nothing before one of some tokens. -/
def nodeOrEmpty (place : Place) (ends : List Token) : (fuel : Nat) → Reader Node
  | 0 => throw .malformed
  | fuel + 1 => do
    if ← facing ends then return empty
    node place fuel

def blockItems : (fuel : Nat) → Reader (List Node)
  | 0 => throw .malformed
  | fuel + 1 => do
    if ← accept .blockEntry then
      let n ← nodeOrEmpty .block [.blockEntry, .blockEnd] fuel
      return n :: (← blockItems fuel)
    expect .blockEnd
    return []

/-- The items of a sequence without indentation. -/
def looseItems : (fuel : Nat) → Reader (List Node)
  | 0 => throw .malformed
  | fuel + 1 => do
    if ← accept .blockEntry then
      let n ← nodeOrEmpty .block [.blockEntry, .key, .value, .blockEnd] fuel
      return n :: (← looseItems fuel)
    return []

def blockEntries : (fuel : Nat) → Reader (List (Node × Node))
  | 0 => throw .malformed
  | fuel + 1 => do
    let ends : List Token := [.key, .value, .blockEnd]
    if ← accept .key then
      let k ← nodeOrEmpty .blockEntry ends fuel
      let v ← if ← accept .value then nodeOrEmpty .blockEntry ends fuel else pure empty
      return (k, v) :: (← blockEntries fuel)
    expect .blockEnd
    return []

/-- The items of a flow sequence, and its end. A pair among them is a mapping of its own. -/
def flowItems (first : Bool) : (fuel : Nat) → Reader (List Node)
  | 0 => throw .malformed
  | fuel + 1 => do
    if ← accept .flowSequenceEnd then return []
    if !first then expect .flowEntry
    if ← accept .flowSequenceEnd then return []
    let n ← if ← accept .key then do
        let k ← nodeOrEmpty .flow [.value, .flowEntry, .flowSequenceEnd] fuel
        let v ← flowValue .flowSequenceEnd fuel
        pure (.mapping .mapping [(k, v)])
      else node .flow fuel
    return n :: (← flowItems false fuel)

/-- The value behind a key between brackets. -/
def flowValue (ending : Token) : (fuel : Nat) → Reader Node
  | 0 => throw .malformed
  | fuel + 1 => do
    if ← accept .value then nodeOrEmpty .flow [.flowEntry, ending] fuel
    else return empty

def flowEntries (first : Bool) : (fuel : Nat) → Reader (List (Node × Node))
  | 0 => throw .malformed
  | fuel + 1 => do
    if ← accept .flowMappingEnd then return []
    if !first then expect .flowEntry
    if ← accept .flowMappingEnd then return []
    let e ← if ← accept .key then do
        let k ← nodeOrEmpty .flow [.value, .flowEntry, .flowMappingEnd] fuel
        pure (k, ← flowValue .flowMappingEnd fuel)
      else do
        pure (← node .flow fuel, empty)
    return e :: (← flowEntries false fuel)

end

/-- The directives in front of a document, as the handles that they declare. Each handle and the
version may be declared once; the version is 1. -/
def directives (versioned : Bool) (handles : List (String × String)) :
    List Token → Except Error (List (String × String) × List Token)
  | .directive (.version major) :: ts =>
    if versioned || major ≠ 1 then .error .malformed else directives true handles ts
  | .directive (.tag h a) :: ts =>
    if (handles.lookup h).isSome then .error .malformed
    else directives versioned ((h, a) :: handles) ts
  | .directive .other :: ts => directives versioned handles ts
  | ts => .ok (handles, ts)

/-- The handles that every document has unless it declares them anew. -/
def commonHandles : List (String × String) := [("!", "!"), ("!!", "tag:yaml.org,2002:")]

/-- Reads the node of a document, and the tokens behind it. -/
def body (handles : List (String × String)) (ts : List Token) :
    Except Error (Node × List Token) := do
  let (n, s) ← (node .block (4 * ts.length + 16)).run { tokens := ts, handles }
  return (n, s.tokens)

/-- The tokens behind the ends of documents. -/
def skipEnds (ts : List Token) : List Token := ts.dropWhile (· = .documentEnd)

def document (ts : List Token) : Except Error (Node × List Token) := do
  let (handles, ts) ← directives false [] ts
  match ts with
  | .documentStart :: ts =>
    let isEmpty := match ts with
      | [] => true
      | .directive _ :: _ => true
      | .documentStart :: _ => true
      | .documentEnd :: _ => true
      | _ => false
    if isEmpty then return (empty, ts) else body (handles ++ commonHandles) ts
  | _ => throw .malformed

/-- The node of the only document of a text, if there is one. -/
def ofTokens? (ts : List Token) : Except Error (Option Node) :=
  match ts with
  | [] => .ok none
  | t :: _ => do
    let explicit := match t with
      | .directive _ => true
      | .documentStart => true
      | _ => false
    let (n, rest) ← if explicit then document ts else body commonHandles ts
    if (skipEnds rest).isEmpty then return some n else throw .malformed

end Node

end SchemaTypes.Yaml
