import WorkItems.Value
/-!
# Work items

A work item has five fields of its own, which are texts, and any number of configurable fields. The
names of the five never name a configurable field of an item that was read or changed through
`setField`.
-/

namespace WorkItems

/-- The fields that every work item has. -/
inductive CoreField where
  | id
  | title
  | status
  | kind
  | created
deriving DecidableEq, Repr, Inhabited

namespace CoreField

/-- The order in which they are written. -/
def all : List CoreField := [id, title, status, kind, created]

def name : CoreField → String
  | id => "id"
  | title => "title"
  | status => "status"
  | kind => "kind"
  | created => "created"

def ofName? (s : String) : Option CoreField := all.find? (·.name == s)

end CoreField

/-- Whether a field of this name is one of the five. -/
def isCoreName (name : String) : Bool := (CoreField.ofName? name).isSome

structure Item where
  id : String
  title : String
  status : String
  kind : String
  created : String
  /-- The configurable fields. -/
  fields : Dict Value
deriving Inhabited

namespace Item

def empty : Item := ⟨"", "", "", "", "", .empty⟩

/-- The text of one of the five fields. -/
def core (item : Item) : CoreField → String
  | .id => item.id
  | .title => item.title
  | .status => item.status
  | .kind => item.kind
  | .created => item.created

def setCore (item : Item) (field : CoreField) (text : String) : Item :=
  match field with
  | .id => { item with id := text }
  | .title => { item with title := text }
  | .status => { item with status := text }
  | .kind => { item with kind := text }
  | .created => { item with created := text }

/-- Assigns a configurable field. The names of the five are refused. -/
def setField? (item : Item) (name : String) (value : Value) : Option Item :=
  if isCoreName name then none else some { item with fields := item.fields.insert name value }

protected def beq (a b : Item) : Bool :=
  CoreField.all.all (fun f => a.core f == b.core f) &&
    a.fields.entries.length == b.fields.entries.length &&
    (a.fields.entries.zip b.fields.entries).all fun (x, y) => x.1 == y.1 && x.2 == y.2

instance : BEq Item := ⟨Item.beq⟩

end Item
end WorkItems
