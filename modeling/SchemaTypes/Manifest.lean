import SchemaTypes.Value

/-!
# Manifests

What an export wrote: one record for each file, in the order of writing, and their totals.
-/

namespace SchemaTypes

/-- A file that was written. -/
structure FileRecord where
  /-- The path below the output directory. -/
  path : String
  size : Int
  lines : Int
  digest : String
deriving Repr, DecidableEq

/-- The files that were written to a directory. -/
structure Manifest where
  directory : String := ""
  files : List FileRecord := []
deriving Repr, DecidableEq

namespace FileRecord

def toValue (r : FileRecord) : Value := .record [
  ("relative_path", .text r.path), ("size_bytes", .int r.size), ("line_count", .int r.lines),
  ("sha256", .text r.digest)]

end FileRecord

namespace Manifest

def fileCount (m : Manifest) : Nat := m.files.length

def byteCount (m : Manifest) : Int := (m.files.map FileRecord.size).foldr (· + ·) 0

def lineCount (m : Manifest) : Int := (m.files.map FileRecord.lines).foldr (· + ·) 0

def toValue (m : Manifest) : Value := .record [
  ("output_directory", .text m.directory), ("total_files", .int m.fileCount),
  ("total_bytes", .int m.byteCount), ("total_lines", .int m.lineCount),
  ("files", .list (m.files.map FileRecord.toValue))]

end Manifest

end SchemaTypes
