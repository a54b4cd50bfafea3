import SchemaTypes.File.Content
import SchemaTypes.File.Tree
import SchemaTypes.Text.Shown

/-!
# Directories and files on a disk

A disk is a file tree and a current directory. Paths are followed name by name, so `a/..` needs the
directory `a`. Making directories stops at the first name that cannot be one and keeps those made
before it; a temporary file that cannot be moved to its target is removed. There are no permissions and
no links, and no limit on the length of a whole path. A limit on the length of names counts where
something is made.
-/

namespace SchemaTypes

/-- Why a file or a directory is refused. -/
inductive FileFault where
  | notFound
  | present
  | notDirectory
  | isDirectory
  | busy
  | nameTooLong
  /-- A name holds the character NUL. -/
  | nul
  /-- The content has no bytes. -/
  | unencodable
deriving Repr, DecidableEq, Inhabited

namespace FileFault

def className : FileFault → String
  | notFound => "FileNotFoundError"
  | present => "FileExistsError"
  | notDirectory => "NotADirectoryError"
  | isDirectory => "IsADirectoryError"
  | busy => "OSError"
  | nameTooLong => "OSError"
  | nul => "ValueError"
  | unencodable => "UnicodeEncodeError"

/-- The words for a fault, with a number where it is one of the operating system. -/
def systemText : FileFault → String
  | notFound => "[Errno 2] No such file or directory"
  | present => "[Errno 17] File exists"
  | notDirectory => "[Errno 20] Not a directory"
  | isDirectory => "[Errno 21] Is a directory"
  | busy => "[Errno 16] Device or resource busy"
  | nameTooLong => "[Errno 36] File name too long"
  | nul => "embedded null byte"
  | unencodable => "surrogates not allowed"

/-- The fault is found before the operating system is asked, and nobody takes care of it. -/
def escapes : FileFault → Bool
  | nul => true
  | unencodable => true
  | _ => false

def message (f : FileFault) (path : String) : String := f.systemText ++ ": " ++ Text.shown path

end FileFault

/-- The longest name that a file system takes, in bytes; without a limit it takes every name. -/
abbrev NameLimit := Option Nat

namespace NameLimit

/-- The name is not too long. -/
def allows (limit : NameLimit) (name : String) : Bool := limit.all fun most => name.utf8ByteSize ≤ most

/-- The fault of a name that is not there. -/
def missing (limit : NameLimit) (name : String) : FileFault :=
  if limit.allows name then .notFound else .nameTooLong

end NameLimit

namespace FileTree

/-- Follows names from a directory; each has to lead to a directory. -/
def walk (t : FileTree) (limit : NameLimit) (here : Location) : List String → Except FileFault Location
  | [] => .ok here
  | n :: ns =>
    if n = ".." then walk t limit here.dropLast ns
    else match t.get? (here ++ [n]) with
      | some .directory => walk t limit (here ++ [n]) ns
      | some (.file _) => .error .notDirectory
      | none => .error (limit.missing n)

/-- The location of a name in a directory, whether something is there or not. The name `..` leads to
a directory that has no name of its own here. -/
def place (t : FileTree) (limit : NameLimit) (dir : Location) (n : String) :
    Except FileFault (Option Location) :=
  if n = ".." then .ok none
  else if t.get? (dir ++ [n]) = none ∧ limit.allows n = false then .error .nameTooLong
  else .ok (some (dir ++ [n]))

/-- The location that names lead to; the root has no name. -/
def target (t : FileTree) (limit : NameLimit) (names : List String) :
    Except FileFault (Option Location) := do
  if names.any fun n => n.toList.contains '\x00' then throw .nul
  let dir ← t.walk limit [] names.dropLast
  match names.getLast? with
  | none => return none
  | some n => t.place limit dir n

def stat (t : FileTree) (names : List String) : Option Entry :=
  match t.target none names with
  | .ok (some l) => t.get? l
  | .ok none => some .directory
  | .error _ => none

/-- Makes one directory. -/
def makeDirectory (t : FileTree) (limit : NameLimit) (names : List String) : Except FileFault FileTree :=
  match t.target limit names with
  | .error e => .error e
  | .ok none => .error .present
  | .ok (some l) =>
    if parent : t.get? l.dropLast = some .directory then
      if free : t.get? l = none then .ok (t.put l .directory parent (by simp [free]))
      else .error .present
    else .error .notFound

/-- Makes a directory and those above it that are missing. A directory that is there is fine. Gives
the tree after it, and the fault with the names at which it arose. -/
def makeDirectories (t : FileTree) (limit : NameLimit) (names : List String) :
    FileTree × Option (FileFault × List String) :=
  match t.makeDirectory limit names with
  | .ok t' => (t', none)
  | .error .notFound =>
    if names = [] then (t, some (.notFound, names))
    else match makeDirectories t limit names.dropLast with
      | (t', some fault) => (t', some fault)
      | (t', none) => match t'.makeDirectory limit names with
        | .ok t'' => (t'', none)
        | .error fault =>
          (t', if t'.stat names = some .directory then none else some (fault, names))
  | .error fault => (t, if t.stat names = some .directory then none else some (fault, names))
termination_by names.length
decreasing_by
  cases names with
  | nil => contradiction
  | cons n ns => simp

/-- Puts a file where no directory is. -/
def putFile (t : FileTree) (l : Location) (content : List UInt8) : Except FileFault FileTree :=
  if parent : t.get? l.dropLast = some .directory then
    if busy : t.get? l = some .directory then .error .isDirectory
    else .ok (t.put l (.file content) parent (fun h => absurd h busy))
  else .error .notFound

/-- The name of a temporary file for the file of a name. -/
def draftName (name : String) (middle : List Char) : String :=
  "." ++ name ++ "." ++ String.ofList middle ++ ".tmp"

/-- A name that is longer than every name in a directory. -/
def freshName (t : FileTree) (dir : Location) (name : String) : String :=
  draftName name (List.replicate (((t.children dir).map fun e => e.1.length).foldl max 0) '_')

/-- Moves a file to a location where no directory is. -/
def moveFile (t : FileTree) (source l : Location) (content : List UInt8) :
    Except FileFault FileTree :=
  if t.get? l = some .directory then .error .isDirectory
  else if h : t.isFile source then (t.erase source h).putFile l content
  else .error .notFound

/-- The tree after an operation that changes nothing where it fails. -/
def settled (t : FileTree) : Except FileFault FileTree → FileTree × Option FileFault
  | .ok t' => (t', none)
  | .error e => (t, some e)

/-- Removes the file at a location, where one is. -/
def discard (t : FileTree) (l : Location) : FileTree := if h : t.isFile l then t.erase l h else t

/-- Puts a file by way of a temporary one beside it, which is moved over it. Where it cannot be moved,
the temporary file is removed. -/
def replaceFile (t : FileTree) (l : Location) (name : String) (content : List UInt8) :
    FileTree × Option FileFault :=
  let source := l.dropLast ++ [t.freshName l.dropLast name]
  match t.putFile source content with
  | .error e => (t, some e)
  | .ok drafted => match drafted.moveFile source l content with
    | .ok t' => (t', none)
    | .error e => (drafted.discard source, some e)

/-- Removes what is in a directory, apart from the names to keep. -/
def clear (t : FileTree) (dir : Location) (keep : List String) : FileTree :=
  ((t.children dir).filter fun e => !keep.contains e.1).foldl (fun t e => t.prune (dir ++ [e.1])) t

end FileTree

inductive WriteMode where
  /-- A temporary file is written beside the target and moved over it. -/
  | atomic
  /-- The target itself is written. -/
  | plain
deriving Repr, DecidableEq, Inhabited

/-- The longest name that is given to a file in writing it; that of a temporary file has eight
characters of its own. -/
def WriteMode.given : WriteMode → String → String
  | atomic, name => FileTree.draftName name (List.replicate 8 '_')
  | plain, name => name

/-- A file tree and the current directory. -/
structure Disk where
  tree : FileTree := .empty
  cwd : Location := []
deriving Inhabited

namespace Disk

/-- The names from the root along a path. -/
def trail (d : Disk) (p : Path) : List String :=
  match p.root with
  | .none => d.cwd ++ p.names
  | _ => p.names

def stat (d : Disk) (p : Path) : Option Entry := d.tree.stat (d.trail p)

/-- Something is at the path. -/
def has (d : Disk) (p : Path) : Bool := (d.stat p).isSome

def hasFile (d : Disk) (p : Path) : Bool := (d.stat p).any fun x => !x.isDirectory

def read (d : Disk) (p : Path) : Except FileFault (List UInt8) :=
  match d.tree.target none (d.trail p) with
  | .error e => .error e
  | .ok none => .error .isDirectory
  | .ok (some l) => match d.tree.get? l with
    | some (.file content) => .ok content
    | some .directory => .error .isDirectory
    | none => .error .notFound

/-- The names of the files in the directory at a path. -/
def fileNames (d : Disk) (p : Path) : List String :=
  match d.tree.walk none [] (d.trail p) with
  | .error _ => []
  | .ok dir => ((d.tree.children dir).filter fun e => !e.2.isDirectory).map (·.1)

/-- Writes the file at a path into a directory that is there. -/
def writeInto (d : Disk) (limit : NameLimit) (mode : WriteMode) (p : Path) (bytes : List UInt8) :
    FileTree × Option FileFault :=
  let t := d.tree
  let target := if p.names = [] then .ok none else t.target limit (d.trail p)
  match mode, target with
  | _, .error e => (t, some e)
  | .plain, .ok none => (t, some .isDirectory)
  | .plain, .ok (some l) => t.settled (t.putFile l bytes)
  | .atomic, .ok none => (t, some .busy)
  | .atomic, .ok (some l) =>
    if limit.allows (mode.given p.name) then t.replaceFile l p.name bytes else (t, some .nameTooLong)

/-- Writes a file, and makes the directories above it that are missing before it looks at the content.
Gives the tree after it, and the fault. -/
def write (d : Disk) (limit : NameLimit) (mode : WriteMode) (p : Path) (content : Content) :
    FileTree × Option FileFault :=
  match d.tree.makeDirectories limit (d.trail p.parent) with
  | (t, some (fault, _)) => (t, some fault)
  | (t, none) => match content.encode? with
    | none => (t, some .unencodable)
    | some bytes => { d with tree := t }.writeInto limit mode p bytes

end Disk

end SchemaTypes
