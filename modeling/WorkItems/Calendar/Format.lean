import WorkItems.Calendar.Pattern.Reader
/-!
# Dates as the text of a format

A format is the text of a date pattern. A date is read strictly: the text has to be what writing
the date by the same format gives. `DateFormat.check` accepts the formats that can be trusted with
that: those that tell two reference dates apart and read them back.
-/

namespace WorkItems

/-- Why a format is not accepted. -/
inductive DateFormatError where
  | unknownDirective (format : String)
  | unwritable (format : String)
  | sameForAll (format : String)
  | noRoundTrip (format : String)
deriving DecidableEq, Repr

namespace DateFormatError

def message : DateFormatError → String
  | unknownDirective f => "invalid date format '" ++ f ++ "'"
  | unwritable f => "date format '" ++ f ++ "' cannot format a calendar date"
  | sameForAll f => "date format '" ++ f ++ "' does not distinguish different dates"
  | noRoundTrip f => "date format '" ++ f ++ "' does not round-trip"

end DateFormatError

namespace DateFormat

/-- The format of dates unless another one is given. -/
def standard : String := "%Y-%m-%d"

/-- The format that is used when one is given or not; a blank one counts as none. -/
def effective : Option String → String
  | none => standard
  | some f => if Text.isBlankText f then standard else f

/-- The text of a date; in the standard format if the other cannot be written. -/
def write (format : String) (d : Date) : String :=
  (DatePattern.format? format d).getD d.isoText

/-- The date that a text shows, if the text is exactly the one written for it. -/
def read? (format : String) (s : String) : Option Date := do
  let d ← DatePattern.parse? format s
  if DatePattern.format? format d = some s then some d else none

def readIso? (s : String) : Option Date := read? standard s

/-! ## Other ways to write a date -/

/-- The formats in which a date may have been written by mistake, the first one first. -/
def alternates : List String :=
  [standard, "%Y/%m/%d", "%m/%d/%Y", "%Y-%m-%dT%H:%M:%S", "%Y-%m-%dT%H:%M:%S%z",
    "%Y-%m-%dT%H:%M:%S%.f", "%Y-%m-%dT%H:%M:%S%.f%z", "%Y-%m-%d %H:%M:%S"]

/-- The date that a text shows in one of several formats, or as an internet timestamp. -/
def readAlternate? (s : String) : Option Date :=
  let s := Text.strip s
  (alternates.findSome? fun format => DatePattern.parse? format s).or (DatePattern.timestamp? s)

/-! ## Formats that can be trusted -/

/-- The first reference date, in the first half of a month, with numbers of one digit. -/
def january : Date := ⟨2006, 1, 2, by decide, by decide, by decide⟩

/-- The second reference date, with numbers of two digits. -/
def november : Date := ⟨2017, 11, 23, by decide, by decide, by decide⟩

def check (format : String) : Except DateFormatError Unit :=
  match DatePattern.ofText? format with
  | none => .error (.unknownDirective format)
  | some p =>
    match p.write? january, p.write? november with
    | some first, some second =>
      if first = second then .error (.sameForAll format)
      else if p.read? (String.ofList first) = some january
          && p.read? (String.ofList second) = some november then .ok ()
      else .error (.noRoundTrip format)
    | _, _ => .error (.unwritable format)

end DateFormat
end WorkItems
