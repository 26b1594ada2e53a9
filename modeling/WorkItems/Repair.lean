import WorkItems.Email
import WorkItems.FrontMatter.Reader
import WorkItems.Schema
/-!
# Repairing a document

A repair fills fields that are missing from their defaults, and restates values that say the same in
another form than the schema asks for. What cannot be repaired is left as it is. Every step gives
the changes that it made; without changes the document is the same.
-/

namespace WorkItems

/-- A change that a repair made. -/
inductive Change where
  | added (field : String) (value : Value)
  | fixed (field old new : String)

namespace Change

/-- The name of the field that was changed. -/
def field : Change → String
  | added field _ => field
  | fixed field _ _ => field

def message : Change → String
  | added field value => "added default for field '" ++ field ++ "': " ++ value.display
  | fixed field old new => "fixed field '" ++ field ++ "': '" ++ old ++ "' -> '" ++ new ++ "'"

end Change

namespace Repair

/-! ## Defaults -/

/-- Whether an item has a value in a configurable field. -/
def isFilled (item : Item) (name : String) : Bool := (item.fields.find? name).any (!·.isVacant)

/--
Fills fields in order. The names of the fields that were added come with the item; a default that
cannot be resolved ends this, and the fields before it stay filled.
-/
def fillFields (today : Date) (item : Item) : List Field → Item × Except ConfigError (List String)
  | [] => (item, .ok [])
  | f :: fs =>
    if isCoreName f.name || isFilled item f.name then fillFields today item fs
    else match Schema.resolveDefault f today with
      | .error e => (item, .error e)
      | .ok none => fillFields today item fs
      | .ok (some v) =>
        let (filled, names) :=
          fillFields today { item with fields := item.fields.insert f.name v } fs
        (filled, names.map (f.name :: ·))

/-- Fills the fields of a schema that are missing or empty. -/
def applyDefaults (s : Schema) (today : Date) (item : Item) :
    Item × Except ConfigError (List String) :=
  fillFields today item s.fields.values

/-! ## Values -/

/-- The form in which an address is kept: trimmed, and in lower case if that is an address. -/
def canonicalEmail (text : String) : String :=
  let trimmed := Text.strip text
  let lower := Unicode.lowerCase trimmed
  if lower ≠ trimmed && Email.isValid lower then lower else trimmed

/-- The form in which a field wants a text, if that is known. -/
def canonical? (f : Field) (text : String) : Option String :=
  match f.fieldType with
  | .date =>
    if (DateFormat.read? f.dateFormat text).isSome then none
    else (DateFormat.readAlternate? text).map (DateFormat.write f.dateFormat)
  | .enumeration => f.allowed? (Text.strip text)
  | .email => some (canonicalEmail text)
  | _ => none

/-- The old and the new text of a value that has to be restated. -/
def restatement? (s : Schema) (name : String) (v : Value) : Option (String × String) := do
  let f ← s.field? name
  let text ← v.string?
  if Text.isBlankText text then none
  let new ← canonical? f text
  if new = text then none else some (text, new)

/-- The value of a field after the repair. -/
def restated (s : Schema) (name : String) (v : Value) : Value :=
  match restatement? s name v with
  | some (_, new) => .string new
  | none => v

/-- Restates the configurable fields, in the order of their names. -/
def fixValues (s : Schema) (item : Item) : Item × List Change :=
  ({ item with fields := item.fields.map (restated s) },
    item.fields.entries.filterMap fun (name, v) =>
      (restatement? s name v).map fun (old, new) => .fixed name old new)

/-- The date of creation in the standard format, if it has to be restated for that. -/
def newCreated? (created : String) : Option String :=
  if Text.isBlankText created || (DateFormat.readIso? created).isSome then none
  else (DateFormat.readAlternate? created).map Date.isoText

/-- Restates the date of creation. -/
def fixCreated (item : Item) : Item × Option Change :=
  match newCreated? item.created with
  | some new => ({ item with created := new }, some (.fixed "created" item.created new))
  | none => (item, none)

/-! ## Documents -/

/-- The changes that the added fields are, with their values. -/
def additions (item : Item) (names : List String) : List Change :=
  names.filterMap fun name => (item.fields.find? name).map (.added name)

/-- Restates values and the date of creation. -/
def fixItem (s : Schema) (item : Item) : Item × List Change :=
  let (item, values) := fixValues s item
  let (item, created) := fixCreated item
  (item, values ++ created.toList)

/-- Repairs an item. If a default cannot be resolved, only the fields before it are filled. -/
def repairItem (s : Schema) (today : Date) (item : Item) :
    Item × Except ConfigError (List Change) :=
  match applyDefaults s today item with
  | (item, .error e) => (item, .error e)
  | (item, .ok names) =>
    let added := additions item names
    let (item, fixes) := fixItem s item
    (item, .ok (added ++ fixes))

/-- Repairs the item of a document. The body stays. -/
def repairDocument (s : Schema) (today : Date) (d : Document) :
    Document × Except ConfigError (List Change) :=
  let (item, changes) := repairItem s today d.item
  ({ d with item }, changes)

end Repair
end WorkItems
