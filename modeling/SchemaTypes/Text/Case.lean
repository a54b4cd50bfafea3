import SchemaTypes.Text.CaseTable

/-!
# Upper and lower case

Case mappings of texts: one character may become several, and a capital sigma that ends a word
becomes a final sigma.
-/

namespace SchemaTypes.Text

def isCapital (c : Char) : Bool := 'A' ≤ c && c ≤ 'Z'

def isSmall (c : Char) : Bool := 'a' ≤ c && c ≤ 'z'

def isDigit (c : Char) : Bool := '0' ≤ c && c ≤ '9'

def upperChar (c : Char) : List Char :=
  if isSmall c then [Char.ofNat (c.toNat - 32)]
  else if c.toNat < 128 then [c]
  else match expandingUpper.lookup c.toNat with
    | some ns => ns.map Char.ofNat
    | none => [((upperRuns.find? c.toNat).map Char.ofNat).getD c]

/-- A cased character that the search for a neighbour does not skip. -/
def isCased (c : Char) : Bool := casedSpans.has c

/-- A character that the search for a neighbour skips. -/
def isCaseIgnorable (c : Char) : Bool := ignorableSpans.has c

/-- The nearest character that is not skipped is cased. -/
def meetsCased (cs : List Char) : Bool := ((cs.dropWhile isCaseIgnorable).head?).any isCased

/-- The lower case of one character, given the characters before it, nearest first, and after it. -/
def lowerChar (before : List Char) (c : Char) (after : List Char) : List Char :=
  if isCapital c then [Char.ofNat (c.toNat + 32)]
  else if c.toNat < 128 then [c]
  else if c = 'Σ' then [if meetsCased before && !meetsCased after then 'ς' else 'σ']
  else if c = 'İ' then ['i', Char.ofNat 0x307]
  else [((lowerRuns.find? c.toNat).map Char.ofNat).getD c]

/-- The lower case of `cs`, when the characters `before` stand in front of it, nearest first. -/
def lowerAfter (before : List Char) : List Char → List Char
  | [] => []
  | c :: cs => lowerChar before c cs ++ lowerAfter (c :: before) cs

def lower (cs : List Char) : List Char := lowerAfter [] cs

def lowercase (s : String) : String := String.ofList (lower s.toList)

/-- The first character in upper case and the others in lower case, as a text of their own. -/
def capitalized : List Char → List Char
  | [] => []
  | c :: cs => upperChar c ++ lower cs

/-- The first character in upper case and the others as they are. -/
def raised : List Char → List Char
  | [] => []
  | c :: cs => upperChar c ++ cs

end SchemaTypes.Text
