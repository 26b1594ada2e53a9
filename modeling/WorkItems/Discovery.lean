import WorkItems.Disk
/-!
# Which files are work items

A work item is a Markdown file below the root of a project that is not excluded: directories whose
name starts with a dot, the scratch file for ideas and everything whose path mentions a template
hold no work items. Only the path below the root counts, not where the project itself lies.
-/

namespace WorkItems

/-- The scratch file for ideas. -/
def ideasFile : String := "IDEAS.md"

/-- What the name of a template, or of a directory of templates, holds. -/
def templateMarker : String := "template"

/-- The extension of Markdown files. -/
def markdownExtension : String := "md"

/-- Whether one text occurs in another. -/
def occursIn (needle : List Char) : List Char → Bool
  | [] => needle.isEmpty
  | c :: cs => needle.isPrefixOf (c :: cs) || occursIn needle cs

/-- Whether a component mentions a template. -/
def mentionsTemplate : Component → Bool
  | .name n => occursIn templateMarker.toList n.toList
  | _ => false

/-- Whether components below the root lead to no work item for their names. -/
def areExcluded (cs : List Component) : Bool :=
  cs.getLast? == some (.name ideasFile) || cs.any mentionsTemplate

/-- Whether a path relative to the root of the project is no work item for its name. -/
def isExcluded (relative : Path) : Bool := areExcluded relative.components

def isHiddenName (name : String) : Bool := name.toList.head? == some '.'

def isMarkdownName (name : String) : Bool := Path.extension? name == some markdownExtension

/-- Whether a file at a location below the root is a work item. -/
def isWorkItemAt (place : Location) : Bool :=
  place.getLast?.any isMarkdownName && !place.dropLast.any isHiddenName &&
    !areExcluded (place.map .name)

namespace Disk

/-- The files of work items below a root. A root that is a file itself counts for its extension. -/
def itemsBelow (root : Path) (t : FileTree) : List Path :=
  match t with
  | .file _ => if root.fileName?.any isMarkdownName then [root] else []
  | .directory _ => (t.files.filter isWorkItemAt).map (·.foldl Path.join root)

/-- The files of all work items of a project, in the order of their paths. -/
def discover (d : Disk) (root : Path) : Except FileError (List Path) :=
  (d.get root).map (itemsBelow root)

end Disk
end WorkItems
