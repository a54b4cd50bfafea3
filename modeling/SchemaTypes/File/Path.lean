import SchemaTypes.Text.Split

/-!
# Paths

A path is a list of names below a root, or below the current directory. Empty names and the name
`.` are dropped when a path is read; `..` stays until the path is resolved.
-/

namespace SchemaTypes

/-- Where a path starts. Two slashes in front, and no third, are a root of their own. -/
inductive Path.Root where
  | none
  | slash
  | slashes
deriving Repr, DecidableEq, Inhabited

/-- A path. -/
structure Path where
  root : Path.Root := .none
  names : List String := []
deriving Repr, DecidableEq, Inhabited

namespace Path

/-- The root that a text starts with. -/
def rootOf : List Char → Root
  | '/' :: '/' :: '/' :: _ => .slash
  | '/' :: '/' :: _ => .slashes
  | '/' :: _ => .slash
  | _ => .none

def ofText (s : String) : Path :=
  ⟨rootOf s.toList, (Text.parts (· = '/') s).filter (· ≠ ".")⟩

def Root.text : Root → String
  | none => ""
  | slash => "/"
  | slashes => "//"

/-- The path as a text; the current directory is a point. -/
def text (p : Path) : String :=
  match p.root, p.names with
  | .none, [] => "."
  | root, names => root.text ++ "/".intercalate names

/-- The last name, or the empty text. -/
def name (p : Path) : String := p.names.getLast?.getD ""

def parent (p : Path) : Path := { p with names := p.names.dropLast }

/-- Goes on from `p` along `q`; a path with a root starts anew. -/
def join (p q : Path) : Path :=
  match q.root with
  | .none => { p with names := p.names ++ q.names }
  | _ => q

/-- Splits a name before its last point, unless the point is the first or the last character. The
characters are reversed, and so are the parts: ending, then stem. -/
def cutEnding (reversed : List Char) : List Char × List Char :=
  match reversed.span (· ≠ '.') with
  | (e :: es, '.' :: c :: cs) => (e :: es ++ ['.'], c :: cs)
  | _ => ([], reversed)

/-- The ending of the last name, with its point. -/
def ending (p : Path) : String := String.ofList (cutEnding p.name.toList.reverse).1.reverse

/-- The last name without its ending. -/
def stem (p : Path) : String := String.ofList (cutEnding p.name.toList.reverse).2.reverse

/-- The names that are left when each `..` takes away the name before it. -/
def settle (seen : List String) : List String → List String
  | [] => seen.reverse
  | n :: ns => if n = ".." then settle seen.tail ns else settle (n :: seen) ns

/-- The names from the root, seen from the current directory. -/
def absolute (cwd : List String) (p : Path) : List String :=
  match p.root with
  | .none => settle [] (cwd ++ p.names)
  | _ => settle [] p.names

/-- The path from the root without any `..`. -/
def resolve (cwd : List String) (p : Path) : Path := ⟨.slash, p.absolute cwd⟩

/-- Some name holds the character NUL, so that no system call takes the path. -/
def hasNul (p : Path) : Bool := p.names.any fun n => n.toList.contains '\x00'

end Path

end SchemaTypes
