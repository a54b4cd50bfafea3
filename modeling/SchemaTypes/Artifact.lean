import SchemaTypes.Digest
import SchemaTypes.Keyed
import SchemaTypes.Settings
import SchemaTypes.Text.Lines

/-!
# Artifacts

Generated files before they are written, and the result of rendering: the artifacts in the order
in which they were rendered. Of several artifacts of one path the last one counts, in the place of
the first.
-/

namespace SchemaTypes

@[ext] structure Artifact where
  /-- The path below the output directory. -/
  path : String
  content : String
  path_ne : path ≠ "" := by decide
deriving Repr

instance : DecidableEq Artifact := fun _ _ => decidable_of_iff _ Artifact.ext_iff.symm

abbrev Contents := Keyed String

structure Rendering where
  artifacts : List Artifact := []
  /-- The domains, where each has files of its own. -/
  domains : List String := []
deriving Repr, DecidableEq

namespace Artifact

def lineCount (a : Artifact) : Nat :=
  if a.content = "" then 0
  else a.content.toList.count '\n' + (if a.content.toList.getLast? = some '\n' then 0 else 1)

def attributes : List Checked.Attribute := [{ name := "path" }, { name := "content" }]

def check (v : Value) : Checked Artifact :=
  Checked.record "GeneratedArtifact" v fun es => Checked.closed attributes es <|
    (fun (path : Checked.Named) content =>
      { path := path.1, content, path_ne := path.ne : Artifact })
    <$> Checked.needed es { name := "path" } Checked.name
    <*> Checked.needed es { name := "content" } Checked.text

def toValue (a : Artifact) : Value := .record [
  ("path", .text a.path), ("content", .text a.content), ("line_count", .int a.lineCount),
  ("size_bytes", .int (Text.byteCount a.content)), ("checksum", .text (Digest.hex a.content))]

end Artifact

namespace Rendering

def fileCount (r : Rendering) : Nat := r.artifacts.length

def lineCount (r : Rendering) : Nat := (r.artifacts.map Artifact.lineCount).foldr (· + ·) 0

def contents (r : Rendering) : Contents :=
  Keyed.ofList (r.artifacts.map fun a => (a.path, a.content))

def add (r : Rendering) (a : Artifact) : Rendering := { r with artifacts := r.artifacts ++ [a] }

def check (v : Value) : Checked Rendering :=
  Checked.record "GenerationResult" v fun es =>
    Rendering.mk
    <$> Checked.given es { name := "artifacts" } [] (Checked.list Artifact.check)
    <*> Checked.given es { name := "domains" } [] (Checked.list Checked.text)

def toValue (r : Rendering) : Value := .record [
  ("artifacts", .list (r.artifacts.map Artifact.toValue)), ("domains", .texts r.domains),
  ("total_files", .int r.fileCount), ("total_lines", .int r.lineCount)]

def brief (r : Rendering) : String :=
  s!"<GenerationResult {r.fileCount} files, {r.lineCount} lines>"

/-- Sets one attribute, checked alone; the totals follow from the artifacts. -/
def assign (r : Rendering) (name : String) (v : Value) : Assigned Rendering :=
  match name with
  | "artifacts" => .set name (Checked.list Artifact.check v) fun xs => { r with artifacts := xs }
  | "domains" => .set name (Checked.list Checked.text v) fun ds => { r with domains := ds }
  | "total_files" => .error .computed
  | "total_lines" => .error .computed
  | _ => .unknown r name

end Rendering

end SchemaTypes
