import WorkItems.Calendar.Bound
import WorkItems.FrontMatter.Reader
import WorkItems.Pattern.Reader
import WorkItems.Schema.FieldConfig
import WorkItems.Unicode.Case
/-!
# Fields of a schema

A `Field` is a configured field that can be used: its pattern is read, its date format can be
trusted, and its bounds do not cross. `Field.ofConfig` makes one, or says what is wrong.
-/

namespace WorkItems

/-- What is wrong with the configuration of a field. -/
inductive FieldFault where
  | badPattern (cause : Pattern.Error)
  | badDateFormat (cause : DateFormatError)
  | enumWithoutValues
  | badItemType (itemType : FieldType)
  | enumArrayWithoutValues
  | lengthsCross (least greatest : Nat)
  | valuesCross (least greatest : Float)
  | badBound (cause : DateBound.Error)
  | datesCross (earliest latest : Date)
deriving Repr

namespace FieldFault

def message : FieldFault → String
  | badPattern cause => "invalid format regex: " ++ cause.message
  | badDateFormat cause => cause.message
  | enumWithoutValues => "enum field has no allowed_values"
  | badItemType t => "unsupported array item_type '" ++ t.name ++ "'"
  | enumArrayWithoutValues => "enum array has no allowed_values"
  | lengthsCross least greatest =>
    "min_length " ++ Decimal.natText least ++ " exceeds max_length " ++ Decimal.natText greatest
  | valuesCross least greatest =>
    "min_value " ++ Number.floatText least ++ " exceeds max_value " ++ Number.floatText greatest
  | badBound cause => cause.message
  | datesCross earliest latest =>
    "min_date " ++ earliest.isoText ++ " is after max_date " ++ latest.isoText

end FieldFault

structure Field where
  name : String
  /-- What is configured, with schemes in lower case. -/
  config : FieldConfig
  pattern : Option Pattern
  dateFormat : String
  minDate : Option DateBound
  maxDate : Option DateBound
deriving Inhabited

namespace Field

def fieldType (f : Field) : FieldType := f.config.fieldType

/-- Case counts among the allowed values unless it is said not to. -/
def isCaseSensitive (f : Field) : Bool := f.config.caseSensitive.getD true

/-- The value for items without the field. -/
def default? (f : Field) : Option Value := f.config.default.map FrontMatter.ofData

/-! ## From a configuration -/

/-- The pattern of a string field, if one is given. -/
def readPattern (c : FieldConfig) : Except FieldFault (Option Pattern) :=
  match c.format with
  | none | some "" => .ok none
  | some text => ((Pattern.ofText text).map some).mapError .badPattern

/-- What the type of a field asks for: the pattern of a string, and conditions on other types. -/
def readTyped (c : FieldConfig) : Except FieldFault (Option Pattern) :=
  match c.fieldType with
  | .string => readPattern c
  | .date =>
    match DateFormat.check (DateFormat.effective c.format) with
    | .ok () => .ok none
    | .error e => .error (.badDateFormat e)
  | .enumeration => if c.allowedValues.isEmpty then .error .enumWithoutValues else .ok none
  | .array =>
    match c.itemType with
    | none => .ok none
    | some t =>
      if !t.isItemType then .error (.badItemType t)
      else if t = .enumeration && c.allowedValues.isEmpty then .error .enumArrayWithoutValues
      else .ok none
  | .email | .url | .number => .ok none

def checkLengths (c : FieldConfig) : Except FieldFault Unit :=
  match c.minLength, c.maxLength with
  | some a, some b => if b < a then .error (.lengthsCross a b) else .ok ()
  | _, _ => .ok ()

def checkValues (c : FieldConfig) : Except FieldFault Unit :=
  match c.minValue, c.maxValue with
  | some a, some b => if b < a then .error (.valuesCross a b) else .ok ()
  | _, _ => .ok ()

/-- Reads a bound, if one is given. A blank one counts as none. -/
def readBound (format : String) : Option String → Except FieldFault (Option DateBound)
  | none => .ok none
  | some text =>
    if Text.isBlankText text then .ok none
    else ((DateBound.ofText format text).map some).mapError .badBound

def checkDates (a b : Option DateBound) : Except FieldFault Unit :=
  match a, b with
  | some (.date a), some (.date b) => if b.lt a then .error (.datesCross a b) else .ok ()
  | _, _ => .ok ()

/-- The field of a name with this configuration. -/
def ofConfig (name : String) (c : FieldConfig) : Except FieldFault Field := do
  let dateFormat := DateFormat.effective c.format
  let pattern ← readTyped c
  checkLengths c
  checkValues c
  let minDate ← readBound dateFormat c.minDate
  let maxDate ← readBound dateFormat c.maxDate
  checkDates minDate maxDate
  let config := { c with schemes := c.schemes.map Text.lowerAscii }
  .ok { name, config, pattern, dateFormat, minDate, maxDate }

/-! ## Allowed values -/

/-- The allowed value that a text stands for: an equal one, else one that is equal but for case. -/
def allowed? (f : Field) (s : String) : Option String :=
  let values := f.config.allowedValues
  match values.find? (· == s) with
  | some v => some v
  | none =>
    if f.isCaseSensitive then none
    else values.find? fun v => Unicode.lowerCase v == Unicode.lowerCase s

end Field
end WorkItems
