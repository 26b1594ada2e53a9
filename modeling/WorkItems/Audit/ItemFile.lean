import WorkItems.Disk
import WorkItems.FrontMatter.Reader
/-!
# Files of work items
-/

namespace WorkItems

/-- Why a file could not be read as a document. -/
inductive ReadError where
  /-- The file could not be opened, or has no text. -/
  | unreadable (cause : FileError)
  | malformed (cause : FrontMatter.Error)
deriving DecidableEq, Repr

def ReadError.message : ReadError → String
  | unreadable cause => "unreadable: " ++ cause.message
  | malformed cause => cause.message

/-- A file that is taken for a work item, and what reading it gave. -/
structure ItemFile where
  path : Path
  document : Except ReadError Document

namespace ItemFile

def ofText (path : Path) (raw : String) : ItemFile :=
  ⟨path, (Document.ofText raw).mapError .malformed⟩

/-- Reads a file. -/
def read (d : Disk) (path : Path) : ItemFile :=
  match d.readText path with
  | .ok raw => .ofText path raw
  | .error e => ⟨path, .error (.unreadable e)⟩

/-- The id of the item without blanks around it, unless it is blank. -/
def id? (f : ItemFile) : Option String :=
  match f.document with
  | .ok d =>
    let id := Text.strip d.item.id
    if id = "" then none else some id
  | .error _ => none

end ItemFile
end WorkItems
