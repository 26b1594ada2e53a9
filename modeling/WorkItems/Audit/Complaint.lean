import WorkItems.Schema
import WorkItems.Schema.Check
/-!
# Complaints about an item

`Schema.complaints` checks a single item: its own five fields, then the configurable fields that it
must have, then every field that it has.
-/

namespace WorkItems

inductive Complaint where
  | missing (field : String)
  | badId (id format : String)
  | badStatus (status : String) (allowed : List String)
  | badCreated (text : String)
  | violation (field : String) (v : Violation)
  | unknownField (name : String)
deriving Repr

def Complaint.message : Complaint → String
  | missing field => "missing required field '" ++ field ++ "'"
  | badId id format => "invalid id '" ++ id ++ "': must match '" ++ format ++ "'"
  | badStatus status allowed =>
    "invalid status '" ++ status ++ "': must be one of " ++ Violation.listed allowed
  | badCreated text => "invalid created date '" ++ text ++ "': expected YYYY-MM-DD"
  | violation field v => v.display field
  | unknownField name => "unknown field '" ++ name ++ "' (strict mode)"

namespace Schema

/-! ## The five fields -/

def missingCore (item : Item) : List Complaint :=
  (CoreField.all.filter fun f => Text.isBlankText (item.core f)).map fun f => .missing f.name

def idComplaints (s : Schema) (item : Item) : List Complaint :=
  if Text.isBlankText item.id || s.idMatches item.id then [] else [.badId item.id s.idFormat]

/-- Without a list of statuses every status is fine. -/
def statusComplaints (s : Schema) (item : Item) : List Complaint :=
  if Text.isBlankText item.status || s.statusValues.isEmpty ||
      s.statusValues.contains item.status then []
  else [.badStatus item.status s.statusValues]

def createdComplaints (item : Item) : List Complaint :=
  if Text.isBlankText item.created || (DateFormat.readIso? item.created).isSome then []
  else [.badCreated item.created]

/-! ## Configurable fields -/

def missingFields (s : Schema) (item : Item) : List Complaint :=
  (s.requiredFields.keys.filter fun name => (item.fields.find? name).all Value.isVacant).map
    .missing

/-- The complaint about one field of an item. A field that is not filled in has none. -/
def fieldComplaint? (s : Schema) (today : Date) (name : String) (v : Value) : Option Complaint :=
  match s.field? name with
  | none => if s.strict then some (.unknownField name) else none
  | some f =>
    if v.isVacant then none
    else match f.check today v with
      | .ok () => none
      | .error e => some (.violation f.name e)

/-- All complaints about an item on the day `today`. -/
def complaints (s : Schema) (today : Date) (item : Item) : List Complaint :=
  missingCore item ++ s.idComplaints item ++ s.statusComplaints item ++ createdComplaints item ++
    s.missingFields item ++
    item.fields.entries.filterMap fun (name, v) => s.fieldComplaint? today name v

end Schema
end WorkItems
