import WorkItems.Config
import WorkItems.Item
import WorkItems.Schema.Error
/-!
# Schemas

A `Schema` is a configuration that can be used: every field of it is a `Field`, and the pattern of
ids is read. Checks, defaults and repairs look at the schema alone.
-/

namespace WorkItems

structure Schema where
  fields : Dict Field
  /-- The names of the configurable fields that an item must have. -/
  requiredFields : Dict Unit
  idFormat : String
  idPattern : Pattern
  statusValues : List String
  strict : Bool
  statusFolders : Dict String
  activeStatus : String
deriving Inhabited

namespace Schema

/-- The fields of a configuration, in the order of their names. -/
def compileFields : Entries FieldConfig → Except ConfigError (List (String × Field))
  | [] => .ok []
  | (name, c) :: rest =>
    match Field.ofConfig name c with
    | .error fault => .error (.field name fault)
    | .ok f => (compileFields rest).map ((name, f) :: ·)

/-- The required fields are listed, or say so themselves. The five fields of an item never count. -/
def requiredNames (listed : List String) (fields : List (String × Field)) : List String :=
  (listed ++ (fields.filter (·.2.config.required)).map (·.1)).filter (!isCoreName ·)

def ofConfig (c : Config) : Except ConfigError Schema := do
  let fields ← compileFields c.fields.entries
  let idFormat := c.validation.idFormat
  match Pattern.ofText idFormat with
  | .error e => .error (.badIdFormat idFormat e)
  | .ok idPattern => .ok {
      fields := .ofList fields
      requiredFields :=
        .ofList ((requiredNames c.validation.requiredFields fields).map (·, ()))
      idFormat
      idPattern
      statusValues := c.validation.statusValues
      strict := c.validation.strict
      statusFolders := c.statusFolders
      activeStatus := c.activeStatus }

def withStrict (s : Schema) (strict : Bool) : Schema := { s with strict }

def field? (s : Schema) (name : String) : Option Field := s.fields.find? name

def isRequired (s : Schema) (name : String) : Bool := s.requiredFields.contains name

def idMatches (s : Schema) (id : String) : Bool := s.idPattern.occursIn id

/-- The folder of the one item that is being worked on. -/
def activeFolder? (s : Schema) : Option String := s.statusFolders.find? s.activeStatus

/-! ## Defaults -/

/-- Resolves the default of a field. -/
def resolveDefault (f : Field) (today : Date) : Except ConfigError (Option Value) :=
  (f.resolveDefault today).mapError (.badDefault f.name)

/-- Whether every default can be resolved on the day `today`; else the first complaint. -/
def checkDefaults (s : Schema) (today : Date) : Except ConfigError Unit :=
  s.fields.values.forM fun f => (resolveDefault f today).map fun _ => ()

end Schema
end WorkItems
