import SchemaTypes.File.Disk
import SchemaTypes.Schema.Document
import SchemaTypes.Text.Case
import SchemaTypes.Text.Sorted
import SchemaTypes.Text.Word

/-!
# Domains

The models of a schema in groups, each of which gets files of its own. The first of three rules
that gives a group decides: the schema files that models name as their location; the schema files
beside the main one, whose names start the names of their models; one group for everything.
-/

namespace SchemaTypes

/-- A group of models. -/
structure Domain where
  name : String
  models : List Model
  /-- The schema file that the domain comes from. -/
  source : Option String := none
deriving Repr

/-- Which rule gave the domains. -/
inductive Domain.Rule where
  | locations
  | files
  | everything
deriving Repr, DecidableEq

namespace Domain

/-- The domain for everything, and for the models that no other domain claims. -/
def shared : String := "shared"

def schemaEnding : String := ".prisma"

/-- The characters without an ending, if they have it. -/
def withoutEnding (ending cs : List Char) : List Char :=
  match Text.dropFront? ending.reverse cs.reverse with
  | some rest => rest.reverse
  | none => cs

/-- The name of the domain of a schema file. -/
def nameOf (file : String) : String :=
  Text.lowercase (String.ofList (withoutEnding schemaEnding.toList (Path.ofText file).name.toList))

/-- The location of a model, unless it is empty. -/
def located? (m : Model) : Option String := m.location.filter (· ≠ "")

/-- The domains of the locations that models name. -/
def ofLocations (d : Document) : List Domain :=
  let places := d.models.filterMap located?
  (Text.sortedOnce (places.map nameOf)).map fun name =>
    { name, models := d.models.filter fun m => (located? m).map nameOf = some name,
      source := places.find? fun p => nameOf p = name }

/-- The domain of a model among given names: the first that starts its name in lower case, else the
shared one, else the first of all. -/
def claim (names : List String) (m : Model) : Option String :=
  let lowered := (Text.lowercase m.name).toList
  (names.find? fun n => n.toList.isPrefixOf lowered).or
    (if names.contains shared then some shared else names.head?)

/-- The domains of the schema files of a directory, given by name. -/
def ofFiles (d : Document) (directory : Path) (files : List String) : List Domain :=
  let path (file : String) : Path := { directory with names := directory.names ++ [file] }
  let schemas := Text.sorted (files.filter fun f => (path f).ending = schemaEnding)
  let nameOf (file : String) := Text.lowercase (path file).stem
  let names := Text.sortedOnce (schemas.map nameOf)
  names.map fun name =>
    { name, models := d.models.filter fun m => claim names m = some name,
      source := (schemas.find? fun f => nameOf f = name).map fun f => (path f).text }

/-- The directory of schema files beside a schema file. -/
def directoryBeside (schemaPath : String) : Path :=
  (Path.ofText schemaPath).parent.join ⟨.none, ["schemas"]⟩

/-- The domains of the schema files beside a schema file. -/
def beside (d : Document) (disk : Disk) (schemaPath : String) : List Domain :=
  let directory := directoryBeside schemaPath
  ofFiles d directory (disk.fileNames directory)

/-- The domains of a schema, and the rule that gave them. -/
def detect (d : Document) (disk : Disk) (schemaPath : Option String) : Rule × List Domain :=
  match ofLocations d with
  | [] => match (schemaPath.filter (· ≠ "")).map (beside d disk) with
    | some (x :: xs) => (.files, x :: xs)
    | _ => (.everything, [{ name := shared, models := d.models }])
  | xs => (.locations, xs)

end Domain

end SchemaTypes
