/-!
# Help texts

The lines that are shown for `--help`, for the program and for each of its commands.
-/

namespace SampleTypes.Command.Help

/-- the program's name -/
def programName : String := "algolia-codegen"

/-- the program's version -/
def version : String := "0.1.0"

/-- lines, each with its line end -/
def ofLines (lines : List String) : String := String.join (lines.map (· ++ "\n"))

/-- the help of the program -/
def program : List String := [
  "Usage: algolia-codegen [OPTIONS] COMMAND [ARGS]...",
  "",
  "  Generate TypeScript types from Algolia index records.",
  "",
  "Options:",
  "  --version      Show the version and exit.",
  "  -v, --verbose  Show detailed progress.",
  "  --help         Show this message and exit.",
  "",
  "Commands:",
  "  generate  Generate TypeScript types for every index listed in the config.",
  "  schema    Generate TypeScript types from a local JSON or JSONL sample file."]

/-- the help of the command for the indexes of a configuration -/
def generate : List String := [
  "Usage: algolia-codegen generate [OPTIONS]",
  "",
  "  Generate TypeScript types for every index listed in the config.",
  "",
  "  For each output file, a batch of hits is fetched from the Algolia index,",
  "  merged into one composite record and turned into interfaces.",
  "",
  "  Examples:",
  "",
  "    # Use algolia-codegen.json from the current directory",
  "    algolia-codegen generate",
  "",
  "    # Use a specific config and show what would be written",
  "    algolia-codegen -v generate -c config/algolia.yaml --dry-run",
  "",
  "Options:",
  "  -c, --config FILE  Config file path (default: algolia-codegen.json/.yaml in",
  "                     the current directory).",
  "  --dry-run          Generate types without writing any files.",
  "  --help             Show this message and exit."]

/-- the help of the command for a sample file -/
def schema : List String := [
  "Usage: algolia-codegen schema [OPTIONS] PATH",
  "",
  "  Generate TypeScript types from a local JSON or JSONL sample file.",
  "",
  "  PATH can be a JSON array of records, a saved search response with a \"hits\"",
  "  list, a single record, or a JSONL file with one record per line.",
  "",
  "  Examples:",
  "",
  "    # Print types for a saved search response",
  "    algolia-codegen schema response.json",
  "",
  "    # Inspect what the merge step sees",
  "    algolia-codegen schema hits.jsonl --json",
  "",
  "    # Write prefixed types to a file",
  "    algolia-codegen schema hits.json --prefix Algolia --postfix Type -o src/types/algolia.ts",
  "",
  "Options:",
  "  -i, --index-name TEXT        Index name for the file header (default: the file",
  "                               name).",
  "  --prefix TEXT                Prefix for generated type names.",
  "  --postfix TEXT               Postfix for generated type names.",
  "  -s, --samples INTEGER RANGE  Maximum number of records to merge (default:",
  "                               all).  [x>=1]",
  "  --enums                      Also emit literal union types for closed value",
  "                               sets.",
  "  --json                       Output the merged record and value sets instead",
  "                               of TypeScript.",
  "  -o, --output FILE            Write the declarations to this file instead of",
  "                               stdout.",
  "  --overwrite                  Replace the output file if it exists.",
  "  --help                       Show this message and exit."]

end SampleTypes.Command.Help
