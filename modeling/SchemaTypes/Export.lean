import SchemaTypes.Artifact
import SchemaTypes.File.Disk
import SchemaTypes.Manifest
import SchemaTypes.Notice

/-!
# Export

An exporter writes artifacts below one directory. A file that the operating system refuses is an error of
the export and does not keep the others from being written. Errors and records of several exports add
up. Some faults are not taken care of, and end the export.
-/

namespace SchemaTypes

/-- What went wrong while artifacts were written. -/
inductive ExportError where
  /-- The output directory cannot be made. -/
  | noDirectory (directory : String) (fault : FileFault) (path : String)
  /-- An artifact cannot be written. -/
  | notWritten (artifact : String) (fault : FileFault) (path : String)
deriving Repr, DecidableEq

def ExportError.message : ExportError → String
  | noDirectory directory fault path =>
    s!"Cannot create output directory {directory}: " ++ fault.message path
  | notWritten artifact fault path =>
    s!"Failed to write {artifact}: {fault.className}: " ++ fault.message path

/-- What is to be written, by path. -/
abbrev Drafts := List (String × Content)

/-- Contents of characters. -/
def Contents.drafts (contents : Contents) : Drafts := contents.map fun e => (e.1, .text e.2)

/-- An exporter and what it did so far. -/
structure Exporter where
  /-- The names from the root to the output directory. -/
  directory : Location
  /-- Remove what an earlier run left. -/
  clean : Bool := false
  mode : WriteMode := .atomic
  /-- The names that the file system takes. -/
  limit : NameLimit := none
  errors : List ExportError := []
  records : List FileRecord := []
deriving Repr

structure Export where
  exporter : Exporter
  tree : FileTree
  /-- What ended it early. -/
  fault : Option FileFault := none
  notices : List Notice := []

def Export.aborted (e : Export) : Bool := e.fault.isSome

namespace Exporter

/-- The names that cleaning leaves in the output directory. -/
def keptNames : List String := [".git", ".gitignore", ".gitkeep"]

def path (x : Exporter) : Path := ⟨.slash, x.directory⟩

/-- No export had an error. -/
def success (x : Exporter) : Bool := x.errors.isEmpty

def manifest (x : Exporter) : Manifest := ⟨x.path.text, x.records⟩

/-- The record of a written artifact, whose content is of characters. -/
def recordOf (path : String) (content : Content) : FileRecord :=
  let text := content.characters
  ⟨path, Text.byteCount text, Text.lineCount text, Digest.hex text⟩

/-- Removes what an earlier run left, where that is asked for. -/
def cleaned (x : Exporter) (t : FileTree) : FileTree :=
  if x.clean && t.isDirectory x.directory then t.clear x.directory keptNames else t

def addError (x : Exporter) (e : ExportError) : Exporter := { x with errors := x.errors ++ [e] }

/-- Takes care of a fault, unless it escapes: then it ends the export. -/
def refuse (x : Exporter) (t : FileTree) (fault : FileFault) (e : ExportError) : Export :=
  if fault.escapes then { exporter := x, tree := t, fault := some fault }
  else { exporter := x.addError e, tree := t, notices := [.exportFault e.message] }

def write (x : Exporter) (t : FileTree) (artifact : String) (content : Content) : Export :=
  let path := x.path.join (Path.ofText artifact)
  match (Disk.mk t []).write x.limit x.mode path content with
  | (t', none) =>
    { exporter := { x with records := x.records ++ [recordOf artifact content] }, tree := t' }
  | (t', some fault) => x.refuse t' fault (.notWritten artifact fault path.text)

def writeAll (x : Exporter) (t : FileTree) : Drafts → Export
  | [] => { exporter := x, tree := t }
  | (artifact, content) :: rest =>
    let first := x.write t artifact content
    if first.aborted then first
    else
      let others := first.exporter.writeAll first.tree rest
      { others with notices := first.notices ++ others.notices }

def fill (x : Exporter) (t : FileTree) (contents : Drafts) : Export :=
  match t.makeDirectories x.limit x.directory with
  | (t', none) => x.writeAll t' contents
  | (t', some (fault, names)) =>
    x.refuse t' fault (.noDirectory x.path.text fault (Path.mk .slash names).text)

/-- Before it is cleaned, the output directory is looked up, and nobody takes care of a name in its path
that is too long. -/
def lookupFault (x : Exporter) (t : FileTree) : Option FileFault :=
  match t.walk x.limit [] x.directory with
  | .error .nameTooLong => if x.clean then some .nameTooLong else none
  | _ => none

def closing (x : Exporter) : Notice :=
  if x.success then .exported x.manifest.fileCount x.manifest.byteCount.toNat x.manifest.directory
  else .exportFailed x.errors.length

/-- Cleans the output directory if asked to, makes it, and writes the artifacts. -/
def run (x : Exporter) (t : FileTree) (contents : Drafts) : Export :=
  let start : List Notice :=
    if x.clean && t.isDirectory x.directory then [.cleaning x.path.text] else []
  let done : Export := match x.lookupFault t with
    | some fault => { exporter := x, tree := t, fault }
    | none => x.fill (x.cleaned t) contents
  let finish : List Notice := if done.aborted then [] else [done.exporter.closing]
  { done with notices := start ++ done.notices ++ .timed .write :: finish }

end Exporter

end SchemaTypes
