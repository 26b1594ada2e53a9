import WorkItems.Calendar.Pattern
/-!
# Writing dates by a pattern

A date is written as the instant at its midnight in UTC, so that the directives for a time of day
have something to show.
-/

namespace WorkItems.DatePattern

def monthNames : List String :=
  ["January", "February", "March", "April", "May", "June", "July", "August", "September",
    "October", "November", "December"]

def weekdayNames : List String :=
  ["Monday", "Tuesday", "Wednesday", "Thursday", "Friday", "Saturday", "Sunday"]

def monthName (d : Date) : List Char := (monthNames[d.month - 1]?.getD "").toList

def weekdayName (d : Date) : List Char := (weekdayNames[d.weekday.sinceMonday]?.getD "").toList

/-- A text filled up from the left. -/
def filledText (filling : Filling) (width : Nat) (cs : List Char) : List Char :=
  match filling with
  | .nothing => cs
  | .zeros => List.replicate (width - cs.length) '0' ++ cs
  | .spaces => List.replicate (width - cs.length) ' ' ++ cs

/-- A number below 256 in two places. Its tens are one character, also beyond nine. -/
def twoPlaces (filling : Filling) (n : Nat) : List Char :=
  let ones := [Decimal.digitChar (n % 10)]
  if n < 10 && filling == .nothing then ones
  else if n < 10 && filling == .spaces then ' ' :: ones
  else Decimal.digitChar (n / 10) :: ones

/-- A signed number: zeros go between the sign and the digits, spaces in front of the sign. -/
def signedNumber (filling : Filling) (width : Nat) (n : Int) : List Char :=
  let sign := if n < 0 then '-' else '+'
  let ds := Decimal.digits n.natAbs
  match filling with
  | .zeros => sign :: filledText .zeros (width - 1) ds
  | _ => filledText filling width (sign :: ds)

/-- A year: four places, or with a sign if it is not between 0 and 9999. -/
def yearNumber (filling : Filling) (y : Int) : List Char :=
  if 0 ≤ y && y ≤ 9999 then filledText filling 4 (Decimal.digits y.toNat)
  else signedNumber filling 5 y

/-- The number of seconds from the start of 1970 to the date. -/
def secondsSince1970 (d : Date) : Int :=
  (Date.daysBeforeYear d.year + d.ordinal - 1 - Date.daysBeforeYear 1970) * 86400

/-- An unsigned number, or a negative one with its sign among the places. -/
def wideNumber (filling : Filling) (width : Nat) (n : Int) : List Char :=
  if n < 0 then signedNumber filling width n else filledText filling width (Decimal.digits n.toNat)

/-- The text of a number directive. -/
def numberText (d : Date) (filling : Filling) : NumberPart → List Char
  | .year => yearNumber filling d.year
  | .century => twoPlaces filling (d.year.fdiv 100 % 256).toNat
  | .yearOfCentury => twoPlaces filling (d.year.fmod 100).toNat
  | .isoYear => yearNumber filling d.isoWeek.1
  | .isoYearOfCentury => twoPlaces filling (d.isoWeek.1.fmod 100).toNat
  | .quarter => [Decimal.digitChar d.quarter]
  | .month => twoPlaces filling d.month
  | .day => twoPlaces filling d.day
  | .weekFromSunday => twoPlaces filling (d.weekNumber Weekday.sinceSunday)
  | .weekFromMonday => twoPlaces filling (d.weekNumber Weekday.sinceMonday)
  | .isoWeek => twoPlaces filling d.isoWeek.2
  | .daysSinceSunday => [Decimal.digitChar d.weekday.sinceSunday]
  | .dayOfWeek => [Decimal.digitChar (d.weekday.sinceMonday + 1)]
  | .ordinal => filledText filling 3 (Decimal.digits d.ordinal)
  | .hour | .minute | .second => twoPlaces filling 0
  | .hour12 => twoPlaces filling 12
  | .nanosecond => filledText filling 9 ['0']
  | .timestamp => wideNumber filling 9 (secondsSince1970 d)

/-- The text of a text directive, if it can be written. -/
def textText? (d : Date) : TextPart → Option (List Char)
  | .shortMonth => some ((monthName d).take 3)
  | .longMonth => some (monthName d)
  | .shortWeekday => some ((weekdayName d).take 3)
  | .longWeekday => some (weekdayName d)
  | .lowerHalf => some "am".toList
  | .upperHalf => some "AM".toList
  | .fraction => some []
  | .fixedFraction digits point =>
    some ((if point then ['.'] else []) ++ List.replicate digits '0')
  | .zoneName => some "UTC".toList
  | .offset => some "+0000".toList
  | .offsetColon => some "+00:00".toList
  | .offsetSeconds => some "+00:00:00".toList
  | .offsetHours => some "+00".toList
  | .anyOffset => none
  | .timestampText => some (d.isoText.toList ++ "T00:00:00+00:00".toList)

def itemText? (d : Date) : PatternItem → Option (List Char)
  | .literal c | .space c => some [c]
  | .number part filling => some (numberText d filling part)
  | .text part => textText? d part

/-- The date written by a pattern. -/
def write? (p : DatePattern) (d : Date) : Option (List Char) :=
  match p with
  | [] => some []
  | item :: rest =>
    match itemText? d item, write? rest d with
    | some cs, some ds => some (cs ++ ds)
    | _, _ => none

/-- The date written by the text of a pattern, if that is one and can be written. -/
def format? (pattern : String) (d : Date) : Option String := do
  let p ← ofText? pattern
  let cs ← p.write? d
  some (String.ofList cs)

end WorkItems.DatePattern
