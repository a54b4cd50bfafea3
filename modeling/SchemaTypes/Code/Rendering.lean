import SchemaTypes.Artifact
import SchemaTypes.Code.File
import SchemaTypes.Notice

/-!
# Rendering a schema

A schema is rendered once as a whole, or once for each of its domains. `sites` says what is
rendered and where its files go; `render` gives the artifacts in order. What a rendering tells
about itself are the notices of the fields that it reaches: `reached` are the entries of a list
up to the first that fails.
-/

namespace SchemaTypes

/-- A scope and the domain that it stands for. -/
structure Site where
  domain : Option String := none
  scope : Scope
deriving Repr

/-- The entries that a traversal visits: all up to the first on which `f` fails, and that one. -/
def reached {ε α β : Type} (f : α → Except ε β) : List α → List α
  | [] => []
  | a :: as => match f a with
    | .ok _ => a :: reached f as
    | .error _ => [a]

namespace Scope

/-- What the columns of a model tell. -/
def modelNotices (s : Scope) (m : Model) : List Notice :=
  (reached (m.column s) m.columns).flatMap Field.notices

def notices (s : Scope) : List Notice :=
  match s.brands with
  | .error _ => []
  | .ok _ => (reached (fun m => m.tableDecl s) s.models).flatMap s.modelNotices

end Scope

namespace Site

/-- The path of a file below a directory, which may be none. -/
def place (directory name : String) : String :=
  if directory = "" then name else directory ++ "/" ++ name

theorem place_ne {directory name : String} (h : name ≠ "") : place directory name ≠ "" := by
  unfold place
  split
  · exact h
  · intro h'
    have := congrArg String.toList h'
    simp [String.toList_append] at this

/-- The directory of the site's files, below the output directory. -/
def directory (s : Site) : String :=
  match s.domain with
  | none => ""
  | some name => name ++ "/src/generated"

def artifacts (s : Site) (runtimeModule : String) : Except RenderFailure (List Artifact) := do
  let types ← s.scope.typesFile
  return [
    { path := place s.directory "enums.ts", content := enumsText s.scope.enums,
      path_ne := place_ne (by decide) },
    { path := place s.directory "types.ts", content := types.text s.scope.enums runtimeModule,
      path_ne := place_ne (by decide) },
    { path := place s.directory "index.ts", content := indexText, path_ne := place_ne (by decide) }]

def notices (s : Site) (runtimeModule : String) : List Notice :=
  s.scope.notices ++ match s.artifacts runtimeModule with
    | .error _ => []
    | .ok as => [.filesRendered as.length ((as.map fun a => Text.breakCount a.content).foldr (· + ·) 0)
        s.scope.models.length s.scope.enums.length s.scope.tables.length]

end Site

/-- What is rendered: the whole schema, or each of its domains. -/
def sites (d : Document) (s : Settings) (disk : Disk) : Except RenderFailure (List Site) :=
  if s.multiFileDomains then do
    let tables ← joinTables d.models
    return (Domain.detect d disk s.schemaPath).2.map fun domain =>
      { domain := some domain.name, scope := Scope.of d (some domain.models) tables }
  else (fun scope => [{ scope }]) <$> Scope.whole d

def renderSites (sites : List Site) (runtimeModule : String) : Except RenderFailure Rendering := do
  let groups ← sites.mapM fun s => s.artifacts runtimeModule
  return { artifacts := groups.flatten, domains := sites.filterMap (·.domain) }

def render (d : Document) (s : Settings) (disk : Disk) : Except RenderFailure Rendering := do
  renderSites (← sites d s disk) s.runtimeModule

def siteNotices (d : Document) (s : Settings) (disk : Disk) : List Notice :=
  match joinTables d.models with
  | .error _ => []
  | .ok tables =>
    .joinTablesFound tables.length ::
      if s.multiFileDomains then
        let (rule, domains) := Domain.detect d disk s.schemaPath
        [.domainsFound rule domains.length]
      else []

def renderNotices (d : Document) (s : Settings) (disk : Disk) : List Notice :=
  siteNotices d s disk ++ match sites d s disk with
    | .error _ => []
    | .ok ss =>
      (reached (fun site => site.artifacts s.runtimeModule) ss).flatMap fun site =>
        site.notices s.runtimeModule

end SchemaTypes
