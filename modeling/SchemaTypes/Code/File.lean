import SchemaTypes.Code.Declaration

/-!
# Generated files

The three files of a scope: `enums.ts` with the enums, `types.ts` with brands, tables and the
interface of the database, and `index.ts`, which exports both. In `types.ts` all brands come before
the first table, so that every foreign key finds the brand of its target.
-/

namespace SchemaTypes
open Text

/-- The comment that each generated file opens with. -/
def banner : String :=
  unlines ["/**", " * Generated by schemagen", " * DO NOT EDIT MANUALLY", " */"]

/-- What `types.ts` declares. -/
structure TypesFile where
  brands : List BrandDecl
  tables : List TableDecl
  /-- The tables of the database and the aliases of their rows. -/
  database : List (String × String)
deriving Repr, DecidableEq

def rowAlias (name : String) : String := name ++ "SelectEncoded"

namespace Scope

/-- The tables of the database and the aliases of their rows. -/
def database (s : Scope) : List (String × String) :=
  s.models.map (fun m => (m.table, rowAlias (Naming.pascal m.name))) ++
  s.tables.map fun t => (t.table, rowAlias (Naming.pascal t.relation))

def brands (s : Scope) : Except RenderFailure (List BrandDecl) :=
  (List.filterMap id) <$> s.models.mapM fun m => m.brand s.document

def typesFile (s : Scope) : Except RenderFailure TypesFile := do
  let brands ← s.brands
  let tables ← s.models.mapM fun m => m.tableDecl s
  return { brands, tables := tables ++ s.tables.map JoinTable.tableDecl, database := s.database }

end Scope

def databaseText (entries : List (String × String)) : String :=
  unlines <|
    ["// Kysely Database Interface", "export interface DB \x7b"] ++
    indent (entries.map fun e => e.1 ++ ": " ++ e.2 ++ ";") ++ ["\x7d"]

/-- The imports of `types.ts`: its helpers, and the runtime schemas of enums in the order of their
names. -/
def importsText (runtimeModule : String) (wrappers : List String) : String :=
  unlines <|
    ["import \x7b Schema \x7d from \"effect\";",
      "import \x7b columnType, generated, getSchemas \x7d from " ++ quote runtimeModule ++ ";"] ++
    if wrappers.isEmpty then []
    else ["import \x7b " ++ ", ".intercalate wrappers ++ " \x7d from \"./enums\";"]

/-- The wrappers of the enums that occur as words in a text, in order. -/
def usedWrappers (enums : List Enumeration) (text : String) : List String :=
  sortedOnce ((enums.map Enumeration.wrapper).filter fun w => occursAsWord w text)

namespace TypesFile

def blocks (t : TypesFile) : List String :=
  t.brands.map BrandDecl.text ++ t.tables.map TableDecl.text ++ [databaseText t.database]

/-- The wrappers of enums that the declarations use. -/
def imports (t : TypesFile) (enums : List Enumeration) : List String :=
  usedWrappers enums (unlines t.blocks)

def text (t : TypesFile) (enums : List Enumeration) (runtimeModule : String) : String :=
  Text.blocks ([banner, importsText runtimeModule (t.imports enums)] ++ t.blocks) ++ "\n"

def names (t : TypesFile) : List String :=
  t.brands.map BrandDecl.name ++ t.tables.flatMap TableDecl.names

end TypesFile

def enumsText (enums : List Enumeration) : String :=
  let body := if enums.isEmpty then ["export \x7b\x7d;"]
    else "import \x7b Schema \x7d from \"effect\";" :: enums.flatMap fun e => ["", e.text]
  unlines ([banner, ""] ++ body) ++ "\n"

def indexText : String :=
  unlines [banner, "", "export * from \"./enums\";", "export * from \"./types\";"] ++ "\n"

end SchemaTypes
