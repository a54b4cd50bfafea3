import SchemaTypes.Checked
import SchemaTypes.Decimal.Digits
import SchemaTypes.Yaml.Scalar

/-!
# Tokens of a YAML text

The tokens that a text is made of. Indentation becomes tokens too: a block starts where a token
stands further right than the block around it, and ends where one stands further left. Whether a
scalar is the key of a mapping is known only at the colon behind it, so the places where a key may
have started are kept, and the tokens for a key are put in there later.
-/

namespace SchemaTypes.Yaml

/-- A directive in front of a document. -/
inductive Directive where
  | version (major : Nat)
  | tag (handle short : String)
  | other
deriving Repr, DecidableEq

inductive Token where
  | directive (d : Directive)
  | documentStart
  | documentEnd
  | blockSequenceStart
  | blockMappingStart
  | blockEnd
  | flowSequenceStart
  | flowSequenceEnd
  | flowMappingStart
  | flowMappingEnd
  | blockEntry
  | flowEntry
  | key
  | value
  | alias (name : String)
  | anchor (name : String)
  | tag (handle : Option String) (suffix : String)
  | scalar (text : String) (isPlain : Bool)
deriving Repr, DecidableEq

/-- A place where a key may have started. -/
structure KeyStart where
  /-- The number of tokens before it. -/
  count : Nat
  /-- The key stands where only a key may stand. -/
  required : Bool
  index : Nat
  line : Nat
  column : Nat
deriving Repr

/-- The state of reading tokens. -/
structure Lexer where
  cursor : Cursor
  /-- The tokens so far, last first. -/
  tokens : List Token := []
  /-- The columns of the open blocks, innermost first. -/
  blocks : List Nat := []
  /-- The number of open brackets. -/
  depth : Nat := 0
  /-- A key may start at the cursor. -/
  keyAllowed : Bool := true
  /-- Where a key may have started, for each number of open brackets that has such a place. -/
  starts : List (Nat × KeyStart) := []
deriving Repr

namespace Lexer

def inFlow (s : Lexer) : Bool := s.depth ≠ 0

/-- The column of the innermost block, if there is one. -/
def indent? (s : Lexer) : Option Nat := s.blocks.head?

def emit (s : Lexer) (t : Token) : Lexer := { s with tokens := t :: s.tokens }

/-- Puts a token behind the first `count`. -/
def insert (s : Lexer) (count : Nat) (t : Token) : Lexer :=
  let later := s.tokens.length - count
  { s with tokens := s.tokens.take later ++ t :: s.tokens.drop later }

def moveTo (s : Lexer) (c : Cursor) : Lexer := { s with cursor := c }

def allowKey (s : Lexer) (allowed : Bool) : Lexer := { s with keyAllowed := allowed }

/-- Forgets the places of keys that cannot be keys any more: a key stands on one line and has at
most 1024 characters. -/
def dropStale (s : Lexer) : Except Error Lexer :=
  let (fresh, stale) := s.starts.partition fun k =>
    k.2.line = s.cursor.line && s.cursor.index - k.2.index ≤ 1024
  if stale.any fun k => k.2.required then .error .malformed else .ok { s with starts := fresh }

/-- Forgets the place of a key at the number of open brackets. -/
def dropStart (s : Lexer) : Except Error Lexer :=
  let (here, others) := s.starts.partition fun k => k.1 = s.depth
  if here.any fun k => k.2.required then .error .malformed else .ok { s with starts := others }

/-- Keeps the cursor's place if a key may start here. -/
def saveStart (s : Lexer) : Except Error Lexer :=
  if s.keyAllowed then do
    let c := s.cursor
    let required := !s.inFlow && s.indent? = some c.column
    let s ← s.dropStart
    return { s with
      starts := (s.depth, ⟨s.tokens.length, required, c.index, c.line, c.column⟩) :: s.starts }
  else .ok s

/-- Ends the blocks right of a column; between brackets there are none to end. -/
def closeBlocks (s : Lexer) (column : Option Nat) : Lexer :=
  if s.inFlow then s
  else
    let ended := s.blocks.takeWhile fun b => column.all fun c => c < b
    { s with
      tokens := List.replicate ended.length .blockEnd ++ s.tokens
      blocks := s.blocks.drop ended.length }

/-- A block may start at a column: it is right of the innermost block. -/
def opensBlock (s : Lexer) (column : Nat) : Bool := s.indent?.all fun b => b < column

/-- Starts a block at the cursor if one may start there. -/
def openBlock (s : Lexer) (t : Token) : Lexer :=
  let column := s.cursor.column
  if s.opensBlock column then { s.emit t with blocks := column :: s.blocks } else s

/-- Adds a token of `width` characters. -/
def take (s : Lexer) (t : Token) (width : Nat) : Lexer :=
  (s.moveTo (s.cursor.skip width)).emit t

/-! ### Directives, tags and names -/

/-- ASCII letters, digits, hyphens and low lines. -/
def isNameChar (c : Char) : Bool := c.isAlphanum || c = '-' || c = '_'

def isAddressChar (c : Char) : Bool :=
  c.isAlphanum || "-;/?:@&=+$,_.!~*'()[]".toList.contains c

def addressBytes : List Char → Except Error (List UInt8 × List Char)
  | '%' :: a :: b :: rest => match hexNumber? 2 [a, b] with
    | none => .error .malformed
    | some n => do
      let (bs, rest) ← addressBytes rest
      return (UInt8.ofNat n :: bs, rest)
  | '%' :: _ => .error .malformed
  | rest => .ok ([], rest)

/-- The characters of an address in front, and what is behind them. -/
def addressChars : (fuel : Nat) → List Char → Except Error (List Char × List Char)
  | 0, cs => .ok ([], cs)
  | fuel + 1, cs => match cs with
    | '%' :: _ => do
      let (bs, rest) ← addressBytes cs
      match Checked.decode? bs with
      | none => throw .malformed
      | some s =>
        let (more, rest) ← addressChars fuel rest
        return (s.toList ++ more, rest)
    | c :: rest =>
      if isAddressChar c then do
        let (more, rest) ← addressChars fuel rest
        return (c :: more, rest)
      else .ok ([], cs)
    | [] => .ok ([], [])

/-- An address of at least one character. -/
def address (c : Cursor) : Except Error (String × Cursor) := do
  let (cs, rest) ← addressChars (c.chars.length + 1) c.chars
  if cs.isEmpty then throw .malformed
  return (String.ofList cs, c.skip (c.chars.length - rest.length))

/-- The handle of a tag: an exclamation mark, or a name between two of them. -/
def handle (c : Cursor) : Except Error (String × Cursor) :=
  match c.chars with
  | '!' :: ' ' :: _ => .ok ("!", c.next)
  | '!' :: rest =>
    let name := rest.takeWhile isNameChar
    match rest.drop name.length with
    | '!' :: _ => .ok (String.ofList ('!' :: name ++ ['!']), c.skip (name.length + 2))
    | _ => .error .malformed
  | _ => .error .malformed

def wholeNumber (c : Cursor) : Except Error (Nat × Cursor) :=
  let (ds, after) := c.span Char.isDigit
  if ds.isEmpty then .error .malformed else .ok (Decimal.ofDigits 10 ds, after)

/-- What a directive says, behind its name. -/
def directiveBody (name : String) (c : Cursor) : Except Error (Directive × Cursor) :=
  match name with
  | "YAML" => do
    let (major, c) ← wholeNumber c.skipSpaces
    if c.peek ≠ some '.' then throw .malformed
    let (_, c) ← wholeNumber c.next
    if endsWord c.peek then return (.version major, c) else throw .malformed
  | "TAG" => do
    let (h, c) ← handle c.skipSpaces
    if c.peek ≠ some ' ' then throw .malformed
    let (a, c) ← address c.skipSpaces
    if endsWord c.peek then return (.tag h a, c) else throw .malformed
  | _ => .ok (.other, (c.span fun x => !isBreak x).2)

def directive (c : Cursor) : Except Error (Directive × Cursor) := do
  let (name, c) := c.next.span isNameChar
  if name.isEmpty || !endsWord c.peek then throw .malformed
  let (d, c) ← directiveBody (String.ofList name) c
  return (d, ← c.endLine)

def anchorName (c : Cursor) : Except Error (String × Cursor) :=
  let (name, after) := c.next.span isNameChar
  let ends := endsToken after.peek || after.peek.any fun x => "?:,]\x7d%@`".toList.contains x
  if name.isEmpty || !ends then .error .malformed else .ok (String.ofList name, after)

def tag (c : Cursor) : Except Error (Token × Cursor) := do
  let (t, c) ← match c.ahead 1 with
    | some '<' => do
      let (a, c) ← address (c.skip 2)
      if c.peek ≠ some '>' then throw .malformed
      pure (Token.tag none a, c.next)
    | o =>
      if endsToken o then pure (Token.tag none "!", c.next)
      else do
        let word := (c.chars.drop 1).takeWhile fun x => !endsWord (some x)
        let (h, c) ← if word.contains '!' then handle c else pure ("!", c.next)
        let (a, c) ← address c
        pure (Token.tag (some h) a, c)
  if endsWord c.peek then return (t, c) else throw .malformed

/-! ### Tokens -/

/-- Ends everything that is open before the start or the end of a document, or a directive. -/
def closeAll (s : Lexer) : Except Error Lexer := do
  return (← (s.closeBlocks none).dropStart).allowKey false

def blockEntry (s : Lexer) : Except Error Lexer := do
  let s ← if s.inFlow then pure s
    else if s.keyAllowed then pure (s.openBlock .blockSequenceStart)
    else throw .malformed
  return (← (s.allowKey true).dropStart).take .blockEntry 1

/-- A question mark in front of a key. -/
def explicitKey (s : Lexer) : Except Error Lexer := do
  let s ← if s.inFlow then pure s
    else if s.keyAllowed then pure (s.openBlock .blockMappingStart)
    else throw .malformed
  return (← (s.allowKey !s.inFlow).dropStart).take .key 1

/-- A colon: behind a key whose place was kept, or alone. -/
def valueMark (s : Lexer) : Except Error Lexer := do
  match s.starts.find? fun k => k.1 = s.depth with
  | some (_, k) =>
    let s := { s with starts := s.starts.filter fun k => k.1 ≠ s.depth }
    let s := s.insert k.count .key
    let s := if !s.inFlow && s.opensBlock k.column then
        { s.insert k.count .blockMappingStart with blocks := k.column :: s.blocks }
      else s
    return (s.allowKey false).take .value 1
  | none =>
    let s ← if s.inFlow then pure s
      else if s.keyAllowed then pure (s.openBlock .blockMappingStart)
      else throw .malformed
    return (← (s.allowKey !s.inFlow).dropStart).take .value 1

def openBracket (s : Lexer) (t : Token) : Except Error Lexer := do
  let s ← s.saveStart
  return ({ s with depth := s.depth + 1 }.allowKey true).take t 1

def closeBracket (s : Lexer) (t : Token) : Except Error Lexer := do
  if !s.inFlow then throw .malformed
  let s ← s.dropStart
  return ({ s with depth := s.depth - 1 }.allowKey false).take t 1

def keyPart (s : Lexer) (read : Cursor → Except Error (Token × Cursor)) : Except Error Lexer := do
  let s ← s.saveStart
  let (t, c) ← read s.cursor
  return ((s.allowKey false).moveTo c).emit t

def blockScalar (s : Lexer) (folded : Bool) : Except Error Lexer := do
  let s ← (s.allowKey true).dropStart
  let (text, c) ← block folded s.indent? s.cursor
  return (s.moveTo c).emit (.scalar text false)

def plainScalar (s : Lexer) : Except Error Lexer := do
  let s ← s.saveStart
  let least := match s.indent? with
    | some n => n + 1
    | none => 0
  let (text, broken, c) := plain s.inFlow least s.cursor
  return ((s.allowKey broken).moveTo c).emit (.scalar text true)

/-- A plain scalar may start with `x`, before the character `following`. -/
def startsPlain (inFlow : Bool) (x : Char) (following : Option Char) : Bool :=
  !(endsToken (some x) || "-?:,[]\x7b\x7d#&*!|>'\"%@`".toList.contains x) ||
  (!endsToken following && (x = '-' || (!inFlow && (x = '?' || x = ':'))))

/-- Reads the token that starts with `x` at the cursor. -/
def token (s : Lexer) (x : Char) : Except Error Lexer :=
  let c := s.cursor
  let alone := endsToken (c.ahead 1)
  if x = '%' && c.column = 0 then do
    let s ← s.closeAll
    let (d, c) ← directive s.cursor
    return (s.moveTo c).emit (.directive d)
  else if c.column = 0 && startsMark '-' c.chars then do
    return (← s.closeAll).take .documentStart 3
  else if c.column = 0 && startsMark '.' c.chars then do
    return (← s.closeAll).take .documentEnd 3
  else match x with
    | '[' => s.openBracket .flowSequenceStart
    | '\x7b' => s.openBracket .flowMappingStart
    | ']' => s.closeBracket .flowSequenceEnd
    | '\x7d' => s.closeBracket .flowMappingEnd
    | ',' => do return (← (s.allowKey true).dropStart).take .flowEntry 1
    | _ =>
      if x = '-' && alone then s.blockEntry
      else if x = '?' && (s.inFlow || alone) then s.explicitKey
      else if x = ':' && (s.inFlow || alone) then s.valueMark
      else match x with
        | '*' => s.keyPart fun c => do
          let (n, c) ← anchorName c
          return (.alias n, c)
        | '&' => s.keyPart fun c => do
          let (n, c) ← anchorName c
          return (.anchor n, c)
        | '!' => s.keyPart tag
        | '\'' => s.keyPart fun c => do
          let (t, c) ← quoted '\'' c
          return (.scalar t false, c)
        | '"' => s.keyPart fun c => do
          let (t, c) ← quoted '"' c
          return (.scalar t false, c)
        | _ =>
          if x = '|' && !s.inFlow then s.blockScalar false
          else if x = '>' && !s.inFlow then s.blockScalar true
          else if startsPlain s.inFlow x (c.ahead 1) then s.plainScalar
          else .error .malformed

/-- Moves to the next token, and ends what ends before it. -/
def advance (s : Lexer) : Except Error Lexer := do
  let (c, broken) := s.cursor.toToken (s.cursor.chars.length + 1)
  let s := s.moveTo c
  let s := if broken && !s.inFlow then s.allowKey true else s
  let s ← s.dropStale
  return s.closeBlocks (some s.cursor.column)

/-- Reads tokens to the end of the text. -/
def run (s : Lexer) : (fuel : Nat) → Except Error Lexer
  | 0 => .error .malformed
  | fuel + 1 => do
    let s ← s.advance
    match s.cursor.peek with
    | none => s.closeAll
    | some x => (← s.token x).run fuel

end Lexer

/-- The characters that a text may hold. -/
def isAllowed (c : Char) : Bool :=
  let n := c.toNat
  n = 9 || n = 10 || n = 13 || (0x20 ≤ n && n ≤ 0x7E) || n = 0x85 || (0xA0 ≤ n && n ≤ 0xFFFD) ||
    0x10000 ≤ n

/-- The tokens of a text. A byte order mark may stand in front. -/
def tokens (cs : List Char) : Except Error (List Token) := do
  if !cs.all isAllowed then throw .malformed
  let start : Cursor := { chars := cs }
  let start := if start.peek = some '\uFEFF' then start.next else start
  let s ← Lexer.run { cursor := start } (cs.length + 2)
  return s.tokens.reverse

end SchemaTypes.Yaml
