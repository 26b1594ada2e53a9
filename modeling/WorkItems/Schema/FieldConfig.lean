import WorkItems.Power
import WorkItems.Schema.FieldType
import WorkItems.Yaml.Data.Printer
import WorkItems.Yaml.Record
/-!
# Fields as they are configured

A `FieldConfig` is what a configuration says about one field: its type and the conditions on its
values. It is read as a record, in which only the type has to be given, and written back as data
with the attributes that are set.
-/

namespace WorkItems

structure FieldConfig where
  fieldType : FieldType
  required : Bool := false
  /-- The value for items without the field. -/
  default : Option Yaml.Data := none
  /-- A pattern for strings, a date format for dates. -/
  format : Option String := none
  minLength : Option Nat := none
  maxLength : Option Nat := none
  minValue : Option Float := none
  maxValue : Option Float := none
  minDate : Option String := none
  maxDate : Option String := none
  allowedValues : List String := []
  itemType : Option FieldType := none
  unique : Bool := false
  schemes : List String := []
  caseSensitive : Option Bool := none
deriving Inhabited

namespace FieldConfig

/-- The names of the attributes, in the order in which they are written. -/
def attributes : List String :=
  ["type", "required", "default", "format", "min_length", "max_length", "min_value", "max_value",
    "min_date", "max_date", "allowed_values", "item_type", "unique", "schemes", "case_sensitive"]

/-! ## Reading -/

def readType (n : Yaml.Node) : Yaml.Read FieldType := do
  Yaml.Read.ofOption (FieldType.ofName? (← n.name))

/-- Lengths are numbers of 64 bits. -/
def maxLengthBound : Nat := bitBound 64

/-- Reads a field that stands `depth` levels above the deepest that data may be nested. -/
def read (depth : Nat) (n : Yaml.Node) : Yaml.Read FieldConfig := do
  let r ← n.record attributes
  pure {
    fieldType := ← r.required "type" readType
    required := ← r.withDefault "required" false Yaml.Node.flag
    default := ← r.optional "default" (Yaml.Node.data (depth - 1))
    format := ← r.optional "format" Yaml.Node.text
    minLength := ← r.optional "min_length" (Yaml.Node.natural maxLengthBound)
    maxLength := ← r.optional "max_length" (Yaml.Node.natural maxLengthBound)
    minValue := ← r.optional "min_value" Yaml.Node.real
    maxValue := ← r.optional "max_value" Yaml.Node.real
    minDate := ← r.optional "min_date" Yaml.Node.text
    maxDate := ← r.optional "max_date" Yaml.Node.text
    allowedValues := ← r.withDefault "allowed_values" [] (Yaml.Node.list Yaml.Node.text)
    itemType := ← r.optional "item_type" readType
    unique := ← r.withDefault "unique" false Yaml.Node.flag
    schemes := ← r.withDefault "schemes" [] (Yaml.Node.list Yaml.Node.text)
    caseSensitive := ← r.optional "case_sensitive" Yaml.Node.flag }

def ofText (s : String) : Except Yaml.Error FieldConfig :=
  Yaml.readText s (read Yaml.nestingLimit)

/-! ## Writing -/

/-- An attribute that is written when it has a value. -/
def entry {α : Type} (name : String) (toData : α → Yaml.Data) :
    Option α → List (Yaml.Data × Yaml.Data)
  | some a => [(.string name, toData a)]
  | none => []

/-- A flag that is written when it is set. -/
def flagEntry (name : String) (b : Bool) : List (Yaml.Data × Yaml.Data) :=
  entry name .bool (if b then some true else none)

/-- A list of texts that is written unless it is empty. -/
def listEntry (name : String) (ts : List String) : List (Yaml.Data × Yaml.Data) :=
  entry name (fun ts => .sequence (ts.map .string)) (if ts.isEmpty then none else some ts)

/-- A natural number of at most 64 bits as data. -/
def naturalData (n : Nat) : Yaml.Data := .number (.uint (.ofNat n))

def realData (x : Float) : Yaml.Data := .number (.float x)

def typeData (t : FieldType) : Yaml.Data := .string t.name

def toData (c : FieldConfig) : Yaml.Data :=
  .mapping <|
    entry "type" typeData (some c.fieldType) ++
    flagEntry "required" c.required ++
    entry "default" id c.default ++
    entry "format" .string c.format ++
    entry "min_length" naturalData c.minLength ++
    entry "max_length" naturalData c.maxLength ++
    entry "min_value" realData c.minValue ++
    entry "max_value" realData c.maxValue ++
    entry "min_date" .string c.minDate ++
    entry "max_date" .string c.maxDate ++
    listEntry "allowed_values" c.allowedValues ++
    entry "item_type" typeData c.itemType ++
    flagEntry "unique" c.unique ++
    listEntry "schemes" c.schemes ++
    entry "case_sensitive" .bool c.caseSensitive

def render (c : FieldConfig) : String := c.toData.render

end FieldConfig
end WorkItems
