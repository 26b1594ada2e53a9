import WorkItems.Schema.Field
/-!
# Default values

A configured default becomes a value of the type of its field. For a date it may be the word
`today`.
-/

namespace WorkItems

/-- What is wrong with the default of a field. -/
inductive DefaultFault where
  | notScalar (found : String)
  | badDate (text format : String)
  | badNumber (text : String)
  | notNumber (found : String)
  | notSequence
  | notAllowed (text : String) (allowed : List String)
deriving DecidableEq, Repr

def DefaultFault.message : DefaultFault → String
  | notScalar found => "expected a scalar, found " ++ found
  | badDate text format => "'" ++ text ++ "' does not match date format '" ++ format ++ "'"
  | badNumber text => "'" ++ text ++ "' is not a number"
  | notNumber found => "expected a number, found " ++ found
  | notSequence => "expected a sequence, found mapping"
  | notAllowed text allowed =>
    "'" ++ text ++ "' is not one of [" ++ Value.commaSeparated allowed ++ "]"

namespace Field

/-- The word that stands for the current date. -/
def todayWord : String := "today"

/-- The text of a scalar. -/
def scalarText (v : Value) : Except DefaultFault String :=
  if v.isScalar then .ok v.display else .error (.notScalar v.typeName)

def dateDefault (f : Field) (today : Date) (text : String) : Except DefaultFault Value :=
  if Text.lowerAscii (Text.strip text) = todayWord then
    .ok (.string (DateFormat.write f.dateFormat today))
  else if (DateFormat.read? f.dateFormat text).isSome then .ok (.string text)
  else .error (.badDate text f.dateFormat)

def numberDefault (v : Value) : Except DefaultFault Value :=
  match v with
  | .number _ => .ok v
  | .string s =>
    match Number.read? s with
    | some n => .ok (.number n)
    | none => .error (.badNumber s)
  | other => .error (.notNumber other.typeName)

/-- A scalar stands for an array with this one element. -/
def arrayDefault (v : Value) : Except DefaultFault Value :=
  match v with
  | .sequence _ => .ok v
  | .mapping _ => .error .notSequence
  | scalar => .ok (.sequence [scalar])

def allowedDefault (f : Field) (text : String) : Except DefaultFault Value :=
  match f.allowed? text with
  | some v => .ok (.string v)
  | none => .error (.notAllowed text f.config.allowedValues)

/-- A filled-in value as one of the type of the field. -/
def coerceDefault (f : Field) (today : Date) (v : Value) : Except DefaultFault Value := do
  match f.fieldType with
  | .string | .email | .url => return .string (← scalarText v)
  | .date => f.dateDefault today (← scalarText v)
  | .number => numberDefault v
  | .array => arrayDefault v
  | .enumeration => f.allowedDefault (← scalarText v)

/-- The default on the day `today`. One that is not filled in counts as none. -/
def resolveDefault (f : Field) (today : Date) : Except DefaultFault (Option Value) :=
  match f.default? with
  | none => .ok none
  | some v => if v.isVacant then .ok none else (f.coerceDefault today v).map some

end Field
end WorkItems
