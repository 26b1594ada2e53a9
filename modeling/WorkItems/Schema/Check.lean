import WorkItems.Email
import WorkItems.Schema.Field
import WorkItems.Url
/-!
# Checking a value against its field

`Field.check` accepts a value or gives the first violation of it. Checks go in the order of type,
format, allowed values and range.
-/

namespace WorkItems

/-- The kinds of violations, in the order in which they are looked for. -/
inductive ViolationKind where
  | type
  | format
  | enumeration
  | range
deriving DecidableEq, Repr

def ViolationKind.name : ViolationKind → String
  | type => "type"
  | format => "format"
  | enumeration => "enum"
  | range => "range"

/-- What is counted when the length of a value is checked. -/
inductive Measured where
  | string
  | array
deriving DecidableEq, Repr

def Measured.name : Measured → String
  | string => "string"
  | array => "array"

/-- Why a value does not fit its field. -/
inductive Violation where
  | wrongType (expected : FieldType) (found : String)
  | badEmail (text : String)
  | badUrl (text : String) (cause : Url.Error)
  | noMatch (text pattern : String)
  | badDate (text format : String)
  | badScheme (scheme : String) (allowed : List String)
  | notAllowed (text : String) (allowed : List String)
  | tooShort (what : Measured) (length least : Nat)
  | tooLong (what : Measured) (length greatest : Nat)
  | tooSmall (value least : Float)
  | tooGreat (value greatest : Float)
  | tooEarly (text earliest : String)
  | tooLate (text latest : String)
  | elementType (index : Nat) (expected : FieldType) (found : String)
  | elementNotAllowed (index : Nat) (text : String) (allowed : List String)
  | repeated (text : String)
deriving Repr

namespace Violation

def kind : Violation → ViolationKind
  | wrongType .. | badEmail .. | badUrl .. => .type
  | noMatch .. | badDate .. | badScheme .. => .format
  | notAllowed .. => .enumeration
  | _ => .range

/-- A list of values in brackets. -/
def listed (values : List String) : String := "[" ++ Value.commaSeparated values ++ "]"

def message : Violation → String
  | wrongType expected found => "expected " ++ expected.name ++ ", found " ++ found
  | badEmail text => "invalid email address '" ++ text ++ "'"
  | badUrl text cause => "invalid URL '" ++ text ++ "': " ++ cause.message
  | noMatch text pattern => "value '" ++ text ++ "' does not match format '" ++ pattern ++ "'"
  | badDate text format => "invalid date '" ++ text ++ "' (expected format '" ++ format ++ "')"
  | badScheme scheme allowed =>
    "URL scheme '" ++ scheme ++ "' is not allowed (allowed: " ++ Value.commaSeparated allowed ++ ")"
  | notAllowed text allowed => "value '" ++ text ++ "' is not one of " ++ listed allowed
  | tooShort what length least =>
    what.name ++ " length " ++ Decimal.natText length ++ " is below minimum " ++
      Decimal.natText least
  | tooLong what length greatest =>
    what.name ++ " length " ++ Decimal.natText length ++ " exceeds maximum " ++
      Decimal.natText greatest
  | tooSmall value least =>
    "value " ++ Number.floatText value ++ " is below minimum " ++ Number.floatText least
  | tooGreat value greatest =>
    "value " ++ Number.floatText value ++ " exceeds maximum " ++ Number.floatText greatest
  | tooEarly text earliest =>
    "date '" ++ text ++ "' is before the earliest allowed date " ++ earliest
  | tooLate text latest => "date '" ++ text ++ "' is after the latest allowed date " ++ latest
  | elementType index expected found =>
    "element " ++ Decimal.natText index ++ ": expected " ++ expected.name ++ ", found " ++ found
  | elementNotAllowed index text allowed =>
    "element " ++ Decimal.natText index ++ ": value '" ++ text ++ "' is not one of " ++
      listed allowed
  | repeated text => "duplicate value '" ++ text ++ "' in array"

/-- The violation as a message about a field. -/
def display (field : String) (v : Violation) : String :=
  "field '" ++ field ++ "': " ++ v.message

end Violation

namespace Field

/-! ## Type -/

def checkType (f : Field) (v : Value) : Except Violation Unit :=
  match f.fieldType, v with
  | .string, .string _ | .date, .string _ | .enumeration, .string _ => .ok ()
  | .number, .number _ => .ok ()
  | .array, .sequence _ => .ok ()
  | .email, .string s => if Email.isValid s then .ok () else .error (.badEmail s)
  | .url, .string s =>
    match Url.ofText s with
    | .ok _ => .ok ()
    | .error e => .error (.badUrl s e)
  | expected, v => .error (.wrongType expected v.typeName)

/-! ## Format -/

/-- The scheme of a URL in lower case, empty for a text that is none. -/
def schemeOf (s : String) : String :=
  match Url.ofText s with
  | .ok u => u.lowerScheme
  | .error _ => ""

def checkPattern (f : Field) (s : String) : Except Violation Unit :=
  match f.pattern with
  | some p => if p.occursIn s then .ok () else .error (.noMatch s (f.config.format.getD ""))
  | none => .ok ()

def checkFormat (f : Field) (v : Value) : Except Violation Unit :=
  match f.fieldType, v with
  | .string, .string s => f.checkPattern s
  | .date, .string s =>
    if (DateFormat.read? f.dateFormat s).isSome then .ok () else .error (.badDate s f.dateFormat)
  | .url, .string s =>
    if f.config.schemes.isEmpty || f.config.schemes.contains (schemeOf s) then .ok ()
    else .error (.badScheme (schemeOf s) f.config.schemes)
  | _, _ => .ok ()

/-! ## Allowed values -/

def checkAllowed (f : Field) (v : Value) : Except Violation Unit :=
  match f.fieldType, v with
  | .enumeration, .string s =>
    if (f.allowed? s).isSome then .ok () else .error (.notAllowed s f.config.allowedValues)
  | _, _ => .ok ()

/-! ## Range -/

def checkLength (f : Field) (what : Measured) (n : Nat) : Except Violation Unit := do
  if let some least := f.config.minLength then
    if n < least then throw (.tooShort what n least)
  if let some greatest := f.config.maxLength then
    if greatest < n then throw (.tooLong what n greatest)

/-- Numbers are compared as floating-point numbers. -/
def checkNumber (f : Field) (x : Float) : Except Violation Unit := do
  if let some least := f.config.minValue then
    if x < least then throw (.tooSmall x least)
  if let some greatest := f.config.maxValue then
    if greatest < x then throw (.tooGreat x greatest)

def checkDate (f : Field) (today : Date) (s : String) : Except Violation Unit := do
  if let some d := DateFormat.read? f.dateFormat s then
    if let some earliest := f.minDate.bind (·.lower? today) then
      if d.lt earliest then throw (.tooEarly s (DateFormat.write f.dateFormat earliest))
    if let some latest := f.maxDate.bind (·.upper? today) then
      if latest.lt d then throw (.tooLate s (DateFormat.write f.dateFormat latest))

/-- Whether a value may be an element of an array of the type. -/
def isElement : FieldType → Value → Bool
  | .number, .number _ | .string, .string _ | .enumeration, .string _ => true
  | _, _ => false

/-- Checks the elements of an array, which are numbered from `index`. -/
def checkElements (f : Field) (t : FieldType) (index : Nat) : List Value → Except Violation Unit
  | [] => .ok ()
  | v :: vs =>
    if !isElement t v then .error (.elementType index t v.typeName)
    else
      let text := v.string?.getD ""
      if t = .enumeration && (f.allowed? text).isNone then
        .error (.elementNotAllowed index text f.config.allowedValues)
      else checkElements f t (index + 1) vs

/-- Looks for an element that equals one of those before it, of which `seen` are the keys. -/
def checkUnique (seen : List String) : List Value → Except Violation Unit
  | [] => .ok ()
  | v :: vs =>
    if seen.contains v.identityKey then .error (.repeated v.display)
    else checkUnique (v.identityKey :: seen) vs

def checkArray (f : Field) (items : List Value) : Except Violation Unit := do
  f.checkLength .array items.length
  if let some t := f.config.itemType then f.checkElements t 0 items
  if f.config.unique then checkUnique [] items

def checkRange (f : Field) (today : Date) (v : Value) : Except Violation Unit :=
  match f.fieldType, v with
  | .string, .string s => f.checkLength .string s.length
  | .number, .number n => f.checkNumber n.toFloat
  | .date, .string s => f.checkDate today s
  | .array, .sequence items => f.checkArray items
  | _, _ => .ok ()

/-- Checks a value on the day `today`. -/
def check (f : Field) (today : Date) (v : Value) : Except Violation Unit := do
  f.checkType v
  f.checkFormat v
  f.checkAllowed v
  f.checkRange today v

end Field
end WorkItems
