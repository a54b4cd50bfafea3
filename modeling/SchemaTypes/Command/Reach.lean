import SchemaTypes.Command.Reading
import SchemaTypes.Generation

/-!
# The reach of a run

Which places of a file system a run depends on. They are known before the run starts: the schema
file first, and once it can be read, the directories that its settings name.
-/

namespace SchemaTypes.Command

namespace Options

/-- The settings that the options replace. -/
def overrides (o : Options) : Entries :=
  let when? (b : Bool) (name : String) : Entries := if b then [(.text name, .bool true)] else []
  let text (s : Option String) (name : String) : Entries :=
    (s.map fun s => (.text name, Value.text s)).toList
  text o.output "output" ++ when? o.multiDomain "multi_file_domains" ++
    text o.runtimeModule "runtime_module" ++ when? o.clean "clean_output"

end Options

/-- The names that lead from the root to the schema file. -/
def schemaPlace (o : Options) (cwd : Location) : List String :=
  (Path.ofText o.schema).absolute cwd

/-- The names that lead from the root to the directories that a run lists or writes to. The disk
has to hold the schema file. -/
def directoryPlaces (o : Options) (disk : Disk) : List (List String) :=
  let path : Path := ⟨.slash, schemaPlace o disk.cwd⟩
  match Source.load disk path >>= Source.parse with
  | .error _ => []
  | .ok (_, s) => match overridden s path o.overrides with
    | .bad _ => []
    | .good s =>
      let beside := (s.schemaPath.filter (· ≠ "")).map fun p => disk.trail (Domain.directoryBeside p)
      let output := (s.output.filter (· ≠ "")).map fun p => (Path.ofText p).absolute disk.cwd
      beside.toList ++ output.toList

end SchemaTypes.Command
