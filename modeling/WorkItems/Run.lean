import WorkItems.Disk.Confinement
import WorkItems.Discovery
import WorkItems.Plan
/-!
# Runs over a project

A run reads the items of a project from a `Disk`, and reports about them or changes them. A changing
run reads all files first. Then it goes through them in order, decides about one, writes it unless
the run is dry, and goes on to the next, so a file that was written stays so whatever comes later.
-/

namespace WorkItems

/-! ## The configuration file -/

/-- The directory of a project for the program itself. -/
def Project.directoryName : String := ".docket"

/-- The name of the configuration in that directory. -/
def Config.fileName : String := "config.yaml"

namespace Config

/-- The configuration file below the root of the project. -/
def filePath : String := Project.directoryName ++ "/" ++ fileName

def load (d : Disk) (root : Path) : Except RunError Config :=
  let path := root.join filePath
  if !d.leadsSomewhere path then .error .notInitialized
  else match d.readText path with
    | .error e => .error (.file e)
    | .ok text => (Config.ofText text).mapError fun e => .config (.unreadable path.text e)

/-- Writes the configuration, and makes the directories for it. -/
def save (c : Config) (d : Disk) (root : Path) : Except RunError Unit × Disk :=
  let directory := root.join Project.directoryName
  match d.makeDirectories directory with
  | (.error e, d) => (.error (.file e), d)
  | (.ok (), d) =>
    match (d.locate directory).bind fun place => d.writeText (place ++ [fileName]) c.render with
    | .error e => (.error (.file e), d)
    | .ok written => (.ok (), written)

end Config

/-! ## Reading and writing items -/

namespace Document

def read (d : Disk) (path : Path) : Except RunError Document :=
  (ItemFile.read d path).document.mapError (.unread path)

/-- Replaces a file of a project by a document. -/
def write (doc : Document) (d : Disk) (root path : Path) : Except RunError Disk := do
  let place ← d.locateWithin root path
  (d.writeText place doc.render).mapError .file

end Document

namespace Disk

/-- Reads all work items of a project. -/
def items (d : Disk) (root : Path) : Except RunError (List ItemFile) :=
  match d.discover root with
  | .error e => .error (.file e)
  | .ok paths => .ok (paths.map (ItemFile.read d))

end Disk

/-! ## Runs -/

/-- Audits all items of a project. -/
def Schema.auditProject (s : Schema) (today : Date) (d : Disk) (root : Path) :
    Except RunError Report :=
  (d.items root).map (s.audit today root)

namespace PlanStep

/-- Writes the document of a step, unless it has none or the run is dry. -/
def carryOut (dryRun : Bool) (step : PlanStep) (d : Disk) (root : Path) : Except RunError Disk :=
  match step.document with
  | none => .ok d
  | some doc => if dryRun then .ok d else doc.write d root step.path

/-- What a step reports, given how carrying it out went. -/
def entries (step : PlanStep) : Except RunError Disk → List ReportEntry
  | .ok _ => Report.about step.path step.notes
  | .error e => Report.about step.path [.unwritten e]

/-- The disk behind a step. A file that cannot be written is as it was. -/
def diskBehind (d : Disk) : Except RunError Disk → Disk
  | .ok written => written
  | .error _ => d

end PlanStep

namespace Repair

/--
Repairs files in order. A file that cannot be written does not stop the others; a default that
cannot be resolved stops the run, and the files before it stay as they were written.
-/
def runFiles (s : Schema) (today : Date) (dryRun : Bool) (root : Path) :
    List ItemFile → Disk → Except ConfigError (List ReportEntry) × Disk
  | [], d => (.ok [], d)
  | f :: fs, d =>
    match stepFor s today f with
    | .error e => (.error e, d)
    | .ok none => runFiles s today dryRun root fs d
    | .ok (some step) =>
      let done := step.carryOut dryRun d root
      let (rest, behind) := runFiles s today dryRun root fs (PlanStep.diskBehind d done)
      (rest.map (step.entries done ++ ·), behind)

/-- Repairs all items of a project. The defaults are resolved before any file is read. -/
def run (s : Schema) (today : Date) (dryRun : Bool) (d : Disk) (root : Path) :
    Except RunError Report × Disk :=
  match s.checkDefaults today with
  | .error e => (.error (.config e), d)
  | .ok () =>
    match d.items root with
    | .error e => (.error e, d)
    | .ok files =>
      let (entries, behind) := runFiles s today dryRun root files d
      ((entries.map Report.mk).mapError .config, behind)

end Repair

namespace Numbering

/-- Gives new ids to files in order. An id that could not be written is not in use. -/
def runFiles (s : Schema) (dryRun : Bool) (root : Path) (ids : Ids) :
    List ItemFile → Disk → List ReportEntry × Disk
  | [], d => ([], d)
  | f :: fs, d =>
    let (outcome, settled) := ids.settle s f
    match outcome.step? s f.path with
    | none => runFiles s dryRun root settled fs d
    | some step =>
      let done := step.carryOut dryRun d root
      let known := if done.isOk then settled else ids
      let (rest, behind) := runFiles s dryRun root known fs (PlanStep.diskBehind d done)
      (step.entries done ++ rest, behind)

/-- Gives new ids to the items of a project whose id an earlier one has. -/
def run (s : Schema) (dryRun : Bool) (d : Disk) (root : Path) : Except RunError Report × Disk :=
  match d.items root with
  | .error e => (.error e, d)
  | .ok files =>
    let (entries, behind) := runFiles s dryRun root ⟨files.filterMap ItemFile.id?, []⟩ files d
    (.ok ⟨entries⟩, behind)

end Numbering
end WorkItems
