import SchemaTypes.Command.Options
import SchemaTypes.Text.Lines

/-!
# Usage

The texts in which the command explains itself.
-/

namespace SchemaTypes.Command

def commandName : String := "schemagen"

def versionText : String := commandName ++ " v1.0.0\n"

def usageText : String := Text.unlines [
  "usage: schemagen [-h] [--version] -s PATH [-o DIR] [--dry-run] [--json]",
  "                 [--multi-domain] [--runtime-module MODULE] [--clean] [-v]",
  "                 [-q]", ""]

def helpText : String := usageText ++ Text.unlines [
  "",
  "Generate Effect Schema + Kysely TypeScript types from a Prisma-style schema document " ++
    "(normalized JSON / YAML or DMMF).",
  "",
  "options:",
  "  -h, --help            show this help message and exit",
  "  --version             show program's version number and exit",
  "  -s PATH, --schema PATH",
  "                        Path to the schema document (JSON or YAML).",
  "  -o DIR, --output DIR  Output directory. Overrides the document's generator",
  "                        output.",
  "",
  "operation modes:",
  "  --dry-run             Render everything but don't write files to disk.",
  "  --json                Print the generation report as JSON instead of text.",
  "",
  "configuration overrides:",
  "  --multi-domain        Emit one artifact set per schema-file domain.",
  "  --runtime-module MODULE",
  "                        Module providing columnType / generated / getSchemas.",
  "  --clean               Clean the output directory before writing.",
  "",
  "verbosity:",
  "  -v, --verbose         Increase verbosity (-v for INFO, -vv for DEBUG).",
  "  -q, --quiet           Suppress all output except errors.",
  "",
  "Examples:",
  "  schemagen -s schema.yaml -o ./generated",
  "  schemagen -s dmmf.json -o ./libs --multi-domain",
  "  schemagen -s schema.yaml -o ./generated --dry-run --json",
  ""]

/-- What is said of arguments that cannot be read. -/
def UsageError.text (e : UsageError) : String :=
  usageText ++ commandName ++ ": error: " ++ e.message ++ "\n"

end SchemaTypes.Command
