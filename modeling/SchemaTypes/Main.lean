import SchemaTypes.Command.Run

/-!
# The command line

Copies the places that a run depends on from the file system into a tree, runs the command on the
tree, and carries the changes of the tree over to the file system.
-/

namespace SchemaTypes.Program

def textOf (l : List String) : String := (Path.mk .slash l).text

/-- The names in a directory, if there is one. -/
def listing? (l : List String) : IO (Option (List String)) := do
  try
    let entries ← (← IO.FS.realPath (textOf l)).readDir
    return some (entries.toList.map fun e => e.fileName)
  catch _ => return none

def content? (l : List String) : IO (Option (List UInt8)) := do
  try
    let bytes ← IO.FS.readBinFile (textOf l)
    return some bytes.data.toList
  catch _ => return none

def putFile (t : FileTree) (l : Location) (content : List UInt8) : FileTree :=
  (t.putFile l content).toOption.getD t

/-- Copies the directories along a path. -/
def copyPath (names : List String) (t : FileTree) : IO FileTree := do
  let mut tree := t
  for n in List.range (names.length + 1) do
    let front := names.take n
    if (← listing? front).isSome then
      tree := (tree.makeDirectories none (Path.settle [] front)).1
  return tree

/-- Copies the names below a directory, `depth` levels down. Contents are not needed. -/
def copyBelow (l : Location) (t : FileTree) : (depth : Nat) → IO FileTree
  | 0 => return t
  | depth + 1 => do
    let mut tree := t
    for name in (← listing? l).getD [] do
      let place := l ++ [name]
      if (← listing? place).isSome then
        tree ← copyBelow place (tree.makeDirectories none place).1 depth
      else tree := putFile tree place []
    return tree

/-- How many levels of directories are copied. -/
def depthLimit : Nat := 64

/-- The part of the file system that a run depends on. -/
def copyFor (o : Command.Options) (cwd : Location) : IO Disk := do
  let schema := Command.schemaPlace o cwd
  let mut tree ← copyPath schema.dropLast (← copyPath cwd .empty)
  if let some content ← content? schema then tree := putFile tree schema content
  for place in Command.directoryPlaces o { tree, cwd } do
    tree ← copyPath place tree
    tree ← copyBelow (Path.settle [] place) tree depthLimit
  return { tree, cwd }

/-- Removes from the file system what a new tree lacks. -/
def removeMissing (old new : FileTree) : IO Unit := do
  for (place, entry) in old.entries.reverse do
    if (new.get? place).isNone then
      match entry with
      | .directory => IO.FS.removeDirAll (textOf place)
      | .file _ => IO.FS.removeFile (textOf place)

/-- Writes to the file system what an old tree lacks. A file appears under its name only when it is
complete. -/
def writeNew (old new : FileTree) : IO Unit := do
  for (place, entry) in new.entries do
    if old.get? place ≠ some entry then
      match entry with
      | .directory => IO.FS.createDirAll (textOf place)
      | .file content =>
        let draft := textOf (place.dropLast ++ [new.freshName place.dropLast (place.getLast?.getD "")])
        IO.FS.writeBinFile draft ⟨content.toArray⟩
        IO.FS.rename draft (textOf place)

/-- The seconds between two readings of the clock. -/
def secondsBetween (start stop : Nat) : Float := (stop - start).toFloat / 1000000000.0

/-- Prints what the command has to say. -/
def tell (r : Command.Response) (times : Timings) : IO Unit := do
  IO.eprint r.complaint
  for n in r.notices do
    IO.eprintln (Text.padRight 8 n.level.word ++ " | " ++ n.channel ++ " | " ++ n.message times)
  IO.print (r.printed.text times)

def exitCode : Command.Ending → IO UInt32
  | .answered code => return code.toUInt32
  | .finished code => return code.toUInt32
  | .broken f => do
    IO.eprintln (Command.commandName ++ ": the document cannot be used. " ++ f.message)
    return 1

/-- Runs the command with arguments. -/
def runWith (args : List String) : IO UInt32 := do
  let cwd := (Path.ofText (← IO.currentDir).toString).names
  let t0 ← IO.monoNanosNow
  let disk ← match Command.request args with
    | .ok (.run o) => copyFor o cwd
    | _ => pure { cwd }
  let t1 ← IO.monoNanosNow
  let r := Command.run args disk
  removeMissing disk.tree r.tree
  let t2 ← IO.monoNanosNow
  writeNew disk.tree r.tree
  let t3 ← IO.monoNanosNow
  let times : Timings
    | .load => secondsBetween t0 t1
    | .render => secondsBetween t1 t2
    | .write => secondsBetween t2 t3
  tell r times
  exitCode r.ending

end SchemaTypes.Program

def main (args : List String) : IO UInt32 := SchemaTypes.Program.runWith args
