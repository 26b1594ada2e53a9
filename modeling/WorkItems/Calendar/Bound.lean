import WorkItems.Calendar.Format
import WorkItems.Text.Pieces
/-!
# Bounds of dates

A bound is a fixed date, or it moves with the day on which it is asked for: `today`, or `future`
for every day after that.
-/

namespace WorkItems

inductive DateBound where
  | today
  | future
  | date (d : Date)
deriving DecidableEq, Repr

namespace DateBound

/-- Why a text is no bound. -/
inductive Error where
  | invalid (text : String)
deriving DecidableEq, Repr

def Error.message : Error → String
  | .invalid text => "invalid date bound '" ++ text ++ "'"

/-- Reads one of the two words in any case, or a date in the format or as `year-month-day`. -/
def ofText (format : String) (s : String) : Except Error DateBound :=
  let s := Text.strip s
  let word := Text.lowerAscii s
  if word = "today" then .ok today
  else if word = "future" then .ok future
  else match (DateFormat.read? format s).or (DateFormat.readIso? s) with
    | some d => .ok (date d)
    | none => .error (.invalid s)

/-- The earliest date that a lower bound allows. -/
def lower? (today : Date) : DateBound → Option Date
  | .today => some today
  | .future => today.next?
  | .date d => some d

/-- The latest date that an upper bound allows. -/
def upper? (today : Date) : DateBound → Option Date
  | .today => some today
  | .future => none
  | .date d => some d

end DateBound
end WorkItems
