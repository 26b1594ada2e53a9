import WorkItems.Power
import WorkItems.Schema.FieldConfig
/-!
# The configuration of a project

A `Config` names the project, its configurable fields, what is checked about items, and the folders
that go with the statuses. It is read from a record in which only the project and its name have to
be given, and written as a record with everything else filled in.
-/

namespace WorkItems

/-- What a configuration says about the project as a whole. -/
structure Project where
  name : String
  description : Option String := none
deriving DecidableEq, Repr, Inhabited

/-- The statuses of items unless others are given. -/
def standardStatuses : List String := ["todo", "doing", "done"]

/-- Ids are three digits unless another pattern is given. -/
def standardIdFormat : String := "^\\d\x7b3\x7d$"

/-- What is checked about all items. -/
structure Validation where
  requiredFields : List String := []
  /-- The pattern of ids. -/
  idFormat : String := standardIdFormat
  statusValues : List String := standardStatuses
  /-- Whether fields that the configuration does not know are reported. -/
  strict : Bool := false
deriving DecidableEq, Repr, Inhabited

/-- Every status has a folder of its name. -/
def standardFolders : Dict String := .ofList (standardStatuses.map fun s => (s, s))

/-- The status of the one item that is being worked on. -/
def standardActiveStatus : String := "doing"

structure Config where
  version : Nat := 1
  project : Project
  fields : Dict FieldConfig := .empty
  validation : Validation := {}
  /-- The folders of the statuses. -/
  statusFolders : Dict String := standardFolders
  activeStatus : String := standardActiveStatus
deriving Inhabited

namespace Config

/-- The configuration of a project without configurable fields. -/
def ofName (name : String) : Config := { project := { name } }

/-- The fields of a project that is being set up. -/
def starterFields : List (String × FieldConfig) := [
  ("priority", {
    fieldType := .enumeration
    default := some (.string "medium")
    allowedValues := ["low", "medium", "high"]
    caseSensitive := some false }),
  ("tags", { fieldType := .array, itemType := some .string, unique := true }),
  ("assignee", { fieldType := .email }),
  ("due", { fieldType := .date, minDate := some "today" })]

/-- The configuration of a project that is being set up. -/
def starter (name : String) : Config := { ofName name with fields := .ofList starterFields }

/-! ## Reading -/

def readProject (n : Yaml.Node) : Yaml.Read Project := do
  let r ← n.record ["name", "description"]
  pure {
    name := ← r.required "name" Yaml.Node.text
    description := ← r.optional "description" Yaml.Node.text }

def readValidation (n : Yaml.Node) : Yaml.Read Validation := do
  let texts := Yaml.Node.list Yaml.Node.text
  let r ← n.record ["required_fields", "id_format", "status_values", "strict"]
  pure {
    requiredFields := ← r.withDefault "required_fields" [] texts
    idFormat := ← r.withDefault "id_format" standardIdFormat Yaml.Node.text
    statusValues := ← r.withDefault "status_values" standardStatuses texts
    strict := ← r.withDefault "strict" false Yaml.Node.flag }

/-- Fields are two levels below the configuration. -/
def fieldDepth : Nat := Yaml.nestingLimit - 2

/-- Versions are numbers of 32 bits. -/
def versionBound : Nat := bitBound 32

def read (n : Yaml.Node) : Yaml.Read Config := do
  let r ← n.record
    ["version", "project", "fields", "validation", "status_folders", "active_status"]
  pure {
    version := ← r.withDefault "version" 1 (Yaml.Node.natural versionBound)
    project := ← r.required "project" readProject
    fields := ← r.withDefault "fields" .empty
      (Yaml.Node.dictionary (FieldConfig.read fieldDepth))
    validation := ← r.withDefault "validation" {} readValidation
    statusFolders := ← r.withDefault "status_folders" standardFolders
      (Yaml.Node.dictionary Yaml.Node.text)
    activeStatus := ← r.withDefault "active_status" standardActiveStatus Yaml.Node.text }

def ofText (s : String) : Except Yaml.Error Config := Yaml.readText s read

/-! ## Writing -/

open FieldConfig (entry flagEntry listEntry naturalData)

def textsData (ts : List String) : Yaml.Data := .sequence (ts.map .string)

/-- A dictionary as data. -/
def dictData {α : Type} (toData : α → Yaml.Data) (d : Dict α) : Yaml.Data :=
  .mapping (d.entries.map fun (k, a) => (.string k, toData a))

def projectData (p : Project) : Yaml.Data :=
  .mapping (entry "name" .string (some p.name) ++
    entry "description" (fun d => d.elim .null .string) (some p.description))

def validationData (v : Validation) : Yaml.Data :=
  .mapping (listEntry "required_fields" v.requiredFields ++
    entry "id_format" .string (some v.idFormat) ++
    entry "status_values" textsData (some v.statusValues) ++
    entry "strict" .bool (some v.strict))

def toData (c : Config) : Yaml.Data :=
  .mapping (entry "version" naturalData (some c.version) ++
    entry "project" projectData (some c.project) ++
    entry "fields" (dictData FieldConfig.toData)
      (if c.fields.isEmpty then none else some c.fields) ++
    entry "validation" validationData (some c.validation) ++
    entry "status_folders" (dictData .string) (some c.statusFolders) ++
    entry "active_status" .string (some c.activeStatus))

def render (c : Config) : String := c.toData.render

end Config
end WorkItems
