import WorkItems.Audit.Complaint
import WorkItems.Repair
import WorkItems.Run.Error
/-!
# Reports

A report lists what was found in the files of a project, or changed in them, in the order in which
it came up.
-/

namespace WorkItems

/-- What a report says about a file. -/
inductive Note where
  | unread (cause : ReadError)
  | complaint (c : Complaint)
  /-- Several files have one id. -/
  | sharedId (id : String) (files : List String)
  /-- Several items are in the folder of the one that is being worked on. -/
  | crowded (folder : String) (files : List String)
  | change (c : Change)
  | noFreeId (id format : String)
  | unwritten (cause : RunError)
  | remark (text : String)

namespace Note

def message : Note → String
  | unread cause => "parse error: " ++ cause.message
  | complaint c => c.message
  | sharedId id files =>
    "duplicate id '" ++ id ++ "' used by " ++ Decimal.natText files.length ++ " files: " ++
      Value.commaSeparated files
  | crowded folder files =>
    "workflow violation: " ++ Decimal.natText files.length ++ " items in '" ++ folder ++
      "' (at most 1 allowed): " ++ Value.commaSeparated files
  | change c => c.message
  | noFreeId id format =>
    "cannot renumber duplicate id '" ++ id ++ "': no free id matches '" ++ format ++ "'"
  | unwritten cause => "write failed: " ++ cause.message
  | remark text => text

end Note

structure ReportEntry where
  path : Path
  note : Note

structure Report where
  entries : List ReportEntry

namespace Report

def empty : Report := ⟨[]⟩

def push (r : Report) (path : Path) (note : Note) : Report := ⟨r.entries ++ [⟨path, note⟩]⟩

def append (r s : Report) : Report := ⟨r.entries ++ s.entries⟩

/-- Several notes about one file. -/
def about (path : Path) (notes : List Note) : List ReportEntry := notes.map (⟨path, ·⟩)

def size (r : Report) : Nat := r.entries.length

def isEmpty (r : Report) : Bool := r.entries.isEmpty

def hasErrors (r : Report) : Bool := !r.isEmpty

/-- The entries about a file. -/
def forPath (r : Report) (path : Path) : List ReportEntry := r.entries.filter (·.path == path)

/-- The number of files with an entry. -/
def fileCount (r : Report) : Nat := (r.entries.map (·.path)).eraseDups.length

end Report
end WorkItems
