import WorkItems.Report
/-!
# Auditing the files of a project

`Schema.audit` reports what is wrong with each file by itself, then ids that several files share,
then whether more than one item is being worked on.
-/

namespace WorkItems.Schema

/-- What is wrong with one file. -/
def fileNotes (s : Schema) (today : Date) (f : ItemFile) : List Note :=
  match f.document with
  | .error e => [.unread e]
  | .ok d => (s.complaints today d.item).map .complaint

/-! ## Shared ids -/

/-- The files of every id, in the order of the ids. -/
def owners (files : List ItemFile) : Dict (List Path) :=
  files.foldl (fun d f =>
    match f.id? with
    | some id => d.insert id ((d.find? id).getD [] ++ [f.path])
    | none => d) .empty

/-- The entry for an id that several files share. It is about the first one. -/
def sharedEntry? (root : Path) (id : String) : List Path → Option ReportEntry
  | first :: second :: rest =>
    some ⟨first, .sharedId id ((first :: second :: rest).map (Path.display root))⟩
  | _ => none

def sharedEntries (root : Path) (files : List ItemFile) : List ReportEntry :=
  (owners files).entries.filterMap fun (id, paths) => sharedEntry? root id paths

/-! ## The item that is being worked on -/

/-- The files that lie directly in a directory. -/
def inFolder (directory : Path) (files : List ItemFile) : List Path :=
  (files.map (·.path)).filter fun p => p.parentComponents? == some directory.components

def workflowEntries (s : Schema) (root : Path) (files : List ItemFile) : List ReportEntry :=
  match s.activeFolder? with
  | none => []
  | some folder =>
    let directory := root.join folder
    let active := inFolder directory files
    if 1 < active.length then
      [⟨directory, .crowded folder (active.map (Path.display root))⟩]
    else []

/-- All that is wrong with the files on the day `today`. -/
def audit (s : Schema) (today : Date) (root : Path) (files : List ItemFile) : Report :=
  ⟨files.flatMap (fun f => Report.about f.path (s.fileNotes today f)) ++
    sharedEntries root files ++ s.workflowEntries root files⟩

end WorkItems.Schema
