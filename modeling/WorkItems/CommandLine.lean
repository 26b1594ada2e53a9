import WorkItems.CommandLine.Arguments
import WorkItems.CommandLine.Failure
import WorkItems.CommandLine.Help
import WorkItems.Config.Finding
import WorkItems.Run
/-!
# Commands

`CommandLine.run` carries out a command line on a `Disk`. What has been printed and written before a
failure stays.
-/

namespace WorkItems.CommandLine

/-- The disk, and what has been printed so far. -/
structure Session where
  disk : Disk
  output : String

/-- Something that prints and writes, and that may fail. -/
abbrev Interaction := ExceptT Failure (StateM Session)

namespace Interaction

def print (text : String) : Interaction Unit :=
  modify fun s => { s with output := s.output ++ text }

def printLine (line : String) : Interaction Unit := print (line ++ "\n")

def printLines (lines : List String) : Interaction Unit := lines.forM printLine

/-- The value that a task gives, or its failure. -/
def attempt {α : Type} (task : Task) (result : Except RunError α) : Interaction α :=
  match result with
  | .ok a => pure a
  | .error e => throw (.during task e)

/-- Looks at the disk. -/
def look {α : Type} (task : Task) (f : Disk → Except RunError α) : Interaction α := do
  attempt task (f (← get).disk)

/-- Changes the disk. The change stays even if the task fails. -/
def change {α : Type} (task : Task) (f : Disk → Except RunError α × Disk) : Interaction α := do
  let (result, disk) := f (← get).disk
  modify fun s => { s with disk }
  attempt task result

end Interaction

open Interaction

/-! ## Setting up -/

/-- The name of a project that is at the top of the disk. -/
def standardName : String := "project"

/-- Makes a directory and tells so. -/
def provide (path : Path) : Interaction Unit :=
  change (.makeDirectory path) fun d =>
    let (result, d) := d.makeDirectories path
    (result.mapError .file, d)

def present (shown : String) : Interaction Unit := printLine ("  exists:  " ++ shown)

def created (shown : String) : Interaction Unit := printLine ("  created: " ++ shown)

/-- Loads the configuration, or writes the one of a new project. -/
def provideConfig (root : Path) (name : String) : Interaction Config := do
  if (← get).disk.leadsSomewhere (root.join Config.filePath) then
    present Config.filePath
    look .loadPresentConfig fun d => Config.load d root
  else
    let config := Config.starter name
    change .writeConfig fun d => config.save d root
    created Config.filePath
    pure config

/-- Makes the folder of a status unless it is there. -/
def provideFolder (root : Path) (folder : String) : Interaction Unit := do
  let path := root.join folder
  if (← get).disk.isDirectory path then present (folder ++ "/")
  else
    provide path
    created (folder ++ "/")

/-- Makes a directory a project: its configuration and the folders of its statuses. -/
def setUp (root : Path) (name : Option String) : Interaction Unit := do
  printLine ("Initializing docket in: " ++ root.text)
  provide (root.join Project.directoryName)
  let config ← provideConfig root ((name.or root.fileName?).getD standardName)
  config.statusFolders.values.forM (provideFolder root)

/-! ## Reports -/

/-- A report for other programs. -/
def reportData (root : Path) (r : Report) : List (String × Json.Data) := [
  ("entries", .array (r.entries.map fun e => .object [
    ("message", .string e.note.message),
    ("path", .string (Path.display root e.path))])),
  ("has_errors", .bool r.hasErrors)]

def entryLine (root : Path) (e : ReportEntry) : String :=
  Path.display root e.path ++ ": " ++ e.note.message

/-- The entries, and a line that counts them. -/
def printReport (root : Path) (r : Report) (counted : String) : Interaction Unit := do
  printLines (r.entries.map (entryLine root))
  printLine ("\n" ++ Decimal.natText r.size ++ " " ++ counted ++ " in " ++
    Decimal.natText r.fileCount ++ " file(s)")

def loadConfig (root : Path) : Interaction Config := look .loadConfig fun d => Config.load d root

def loadSchema (root : Path) : Interaction Schema := do
  let config ← loadConfig root
  attempt .compileSchema ((Schema.ofConfig config).mapError .config)

def validate (today : Date) (root : Path) (strict json : Bool) : Interaction Unit := do
  let schema ← loadSchema root
  let schema := if strict then schema.withStrict true else schema
  let report ← look .auditItems fun d => schema.auditProject today d root
  if json then printLine (Json.Data.object (reportData root report)).render
  else if report.isEmpty then printLine "All work items are valid."
  else printReport root report "error(s)"
  if report.hasErrors then throw (.invalidItems report.size)

def printChanges (root : Path) (dryRun json : Bool) (r : Report) : Interaction Unit :=
  if json then
    printLine (Json.Data.object (("dry_run", .bool dryRun) :: reportData root r)).render
  else if r.isEmpty then printLine "Nothing to fix."
  else printReport root r ("change(s) " ++ if dryRun then "pending" else "applied")

def fix (today : Date) (root : Path) (dryRun json : Bool) : Interaction Unit := do
  let schema ← loadSchema root
  let report ← change .repairItems fun d => Repair.run schema today dryRun d root
  printChanges root dryRun json report

def renumber (root : Path) (dryRun json : Bool) : Interaction Unit := do
  let schema ← loadSchema root
  let report ← change .renumberItems fun d => Numbering.run schema dryRun d root
  printChanges root dryRun json report

/-! ## The configuration -/

def showConfig (root : Path) (json : Bool) : Interaction Unit := do
  let config ← loadConfig root
  if json then
    match Json.Data.ofYaml config.toData with
    | .ok d => printLine d.render
    | .error fault => throw (.badKey fault)
  else print config.render

def findingData (f : Finding) : Json.Data :=
  .object [("level", .string f.level.name), ("message", .string f.message)]

def findingLine (f : Finding) : String := "[" ++ f.level.name ++ "] " ++ f.message

def validateConfig (root : Path) (json : Bool) : Interaction Unit := do
  let config ← loadConfig root
  let findings := config.findings
  if json then
    printLine (Json.Data.object [("warnings", .array (findings.map findingData))]).render
  else if findings.isEmpty then printLine "Config is valid. No warnings."
  else printLines (findings.map findingLine)
  if findings.any (·.level = .error) then throw .unusableConfig

/-! ## Command lines -/

/-- A directory that marks the root of a repository. -/
def repositoryMarker : String := ".git"

/-- The current directory as a path. -/
def currentPath (d : Disk) : Path := ⟨"/" ++ String.intercalate "/" d.here⟩

/-- The nearest directory around the current one that has a directory of this name. -/
def nearestWith? (d : Disk) (marker : String) : Option Path :=
  (currentPath d).ancestors.find? fun p => d.isDirectory (p.join marker)

/-- The root of the project around the current directory. -/
def rootAround (d : Disk) : Path :=
  ((nearestWith? d Project.directoryName).or (nearestWith? d repositoryMarker)).getD (currentPath d)

def action (today : Date) (root : Path) (json : Bool) : Command → Interaction Unit
  | .setUp name => setUp root name
  | .validate strict => validate today root strict json
  | .fix dryRun => fix today root dryRun json
  | .renumber dryRun => renumber root dryRun json
  | .showConfig => showConfig root json
  | .validateConfig => validateConfig root json

/-- How a command ends. -/
structure Outcome where
  code : UInt32
  output : String
  /-- What is told about a failure. -/
  complaint : Option String
  disk : Disk

def Outcome.ofSession : Except Failure Unit × Session → Outcome
  | (.ok (), s) => ⟨0, s.output, none, s.disk⟩
  | (.error e, s) => ⟨1, s.output, some ("error: " ++ e.message), s.disk⟩

/-- Carries out a command. -/
def Invocation.run (i : Invocation) (today : Date) (d : Disk) : Outcome :=
  let root := (i.root.map Path.mk).getD (rootAround d)
  .ofSession ((action today root i.json i.command).run.run ⟨d, ""⟩)

/-- What a command line does that carries out no command. -/
def Outcome.ofStop (usualRoot : Option String) (d : Disk) : Stop → Outcome
  | .usage => ⟨2, "", some usageComplaint, d⟩
  | .help step => ⟨0, helpText step usualRoot, none, d⟩
  | .version step => ⟨0, versionText step, none, d⟩

/--
Carries out a command line. `usualRoot` is the root of the project unless it gives another one.
-/
def run (today : Date) (usualRoot : Option String) (arguments : List String) (d : Disk) : Outcome :=
  match Invocation.ofArguments usualRoot arguments with
  | .ok i => i.run today d
  | .error stop => .ofStop usualRoot d stop

end WorkItems.CommandLine
