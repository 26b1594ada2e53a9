import WorkItems.CommandLine.Arguments
/-!
# Help

What is printed about a command instead of carrying it out: its purpose, how it is written, the
commands below it and its options.
-/

namespace WorkItems.CommandLine

/-- The version of the program. -/
def programVersion : String := "0.1.0"

namespace Step

/-- The words that lead to a step. -/
def path : Step → List String
  | program => ["docket"]
  | setUp => ["docket", "init"]
  | validate => ["docket", "validate"]
  | fix => ["docket", "fix"]
  | renumber => ["docket", "fix-ids"]
  | config => ["docket", "config"]
  | showConfig => ["docket", "config", "show"]
  | validateConfig => ["docket", "config", "validate"]

def purpose : Step → String
  | program => "Validate, default and repair the front matter of markdown work items"
  | setUp => "Write a starter .docket/config.yaml and the status folders"
  | validate => "Validate every work item against the schema"
  | fix => "Apply defaults and fix recoverable values"
  | renumber => "Renumber work items that share an ID"
  | config => "Inspect the project configuration"
  | showConfig => "Print the effective configuration"
  | validateConfig => "Compile the schema and report common mistakes"

def usage (step : Step) : String :=
  "Usage: " ++ String.intercalate " " step.path ++ " [OPTIONS]" ++
    if step.words.isEmpty then "" else " <COMMAND>"

/-- The line of the option for the root. It shows what the root is without it. -/
def rootLine (usualRoot : Option String) : String × String :=
  ("    --root <ROOT>",
    "Project root (default: auto-detect from .docket/ or .git/) [env: DOCKET_ROOT=" ++
      usualRoot.getD "" ++ "]")

/-- The options of a step, as they are written and what they do. -/
def options (step : Step) (usualRoot : Option String) : List (String × String) :=
  let root := rootLine usualRoot
  let own := match step with
    | setUp => [("    --name <NAME>", "Project name (default: root directory name)"), root]
    | validate => [root, ("    --strict", "Reject fields that have no schema entry")]
    | fix | renumber => [("    --dry-run", "Report changes without writing"), root]
    | _ => [root]
  own ++ [("-j, --json", "Output as JSON"), ("-h, --help", "Print help"),
    ("-V, --version", "Print version")]

/-- The commands below a step. -/
def commands (step : Step) : List (String × String) :=
  step.words.map (fun (word, next) => (word, next.purpose)) ++
    [("help", "Print this message or the help of the given subcommand(s)")]

end Step

/-- Two columns under a heading. -/
def table (heading : String) (rows : List (String × String)) : String :=
  let width := (rows.map (·.1.length)).foldl max 0
  let line (row : String × String) : String :=
    "  " ++ row.1 ++ String.ofList (List.replicate (width - row.1.length) ' ') ++ "  " ++ row.2 ++
      "\n"
  heading ++ "\n" ++ String.join (rows.map line)

def helpText (step : Step) (usualRoot : Option String) : String :=
  step.purpose ++ "\n\n" ++ step.usage ++ "\n\n" ++
    (if step.words.isEmpty then "" else table "Commands:" step.commands ++ "\n") ++
    table "Options:" (step.options usualRoot)

def versionText (step : Step) : String :=
  String.intercalate "-" step.path ++ " " ++ programVersion ++ "\n"

/-- What is told about a command line that says nothing that can be done. -/
def usageComplaint : String :=
  "error: the arguments are not understood\n\n" ++ Step.program.usage ++
    "\n\nFor more information, try '--help'."

end WorkItems.CommandLine
