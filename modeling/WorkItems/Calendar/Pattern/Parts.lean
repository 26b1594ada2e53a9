import WorkItems.Calendar.Pattern
import WorkItems.Power
/-!
# The date that some of its parts determine

`DateParts` holds what was read of a date. Each part is set at most to one value, and
`DateParts.date?` finds the date from the parts that suffice and checks the others against it.
-/

namespace WorkItems

/-- Parts of a date and of a time that have been read. -/
structure DateParts where
  year : Option Int := none
  century : Option Nat := none
  yearOfCentury : Option Nat := none
  isoYear : Option Int := none
  isoYearOfCentury : Option Nat := none
  quarter : Option Nat := none
  month : Option Nat := none
  day : Option Nat := none
  weekFromSunday : Option Nat := none
  weekFromMonday : Option Nat := none
  isoWeek : Option Nat := none
  weekday : Option Weekday := none
  ordinal : Option Nat := none
  afternoon : Option Bool := none
  hour12 : Option Nat := none
  minute : Option Nat := none
  second : Option Nat := none
  nanosecond : Option Nat := none
  timestamp : Option Nat := none
  offset : Option Int := none
deriving DecidableEq, Repr

namespace DateParts

def empty : DateParts := {}

/-- The value of a part that may have one already. -/
def agree {α : Type} [DecidableEq α] (old : Option α) (new : α) : Option (Option α) :=
  match old with
  | none => some (some new)
  | some a => if a = new then some (some a) else none

/-- A part within bounds. -/
def bounded (low high : Nat) (old : Option Nat) (new : Nat) : Option (Option Nat) :=
  if low ≤ new && new ≤ high then agree old new else none

def setWeekday (p : DateParts) (w : Weekday) : Option DateParts :=
  (agree p.weekday w).map fun weekday => { p with weekday }

def setMonth (p : DateParts) (m : Nat) : Option DateParts :=
  (bounded 1 12 p.month m).map fun month => { p with month }

def setAfternoon (p : DateParts) (b : Bool) : Option DateParts :=
  (agree p.afternoon b).map fun afternoon => { p with afternoon }

def setNanosecond (p : DateParts) (n : Nat) : Option DateParts :=
  (bounded 0 999999999 p.nanosecond n).map fun nanosecond => { p with nanosecond }

def setOffset (p : DateParts) (seconds : Int) : Option DateParts :=
  (agree p.offset seconds).map fun offset => { p with offset }

/-- An hour of the day sets the half of the day and the hour in it. -/
def setHour (p : DateParts) (n : Nat) : Option DateParts := do
  if 23 < n then none
  let p ← p.setAfternoon (12 ≤ n)
  let hour12 ← agree p.hour12 (n % 12)
  some { p with hour12 }

/-- Years that the calendar counts in 32 bits. -/
def yearInRange (y : Int) : Bool := -(bitBound 31 : Int) ≤ y && y < bitBound 31

/-- Sets the part that a number directive stands for. -/
def setNumber (p : DateParts) (part : NumberPart) (v : Int) : Option DateParts :=
  let n := v.toNat
  match part with
  | .year => if yearInRange v then (agree p.year v).map fun year => { p with year } else none
  | .isoYear =>
    if yearInRange v then (agree p.isoYear v).map fun isoYear => { p with isoYear } else none
  | .century => (agree p.century n).map fun century => { p with century }
  | .yearOfCentury =>
    (bounded 0 99 p.yearOfCentury n).map fun yearOfCentury => { p with yearOfCentury }
  | .isoYearOfCentury =>
    (bounded 0 99 p.isoYearOfCentury n).map fun isoYearOfCentury => { p with isoYearOfCentury }
  | .quarter => (bounded 1 4 p.quarter n).map fun quarter => { p with quarter }
  | .month => p.setMonth n
  | .day => (bounded 1 31 p.day n).map fun day => { p with day }
  | .weekFromSunday =>
    (bounded 0 53 p.weekFromSunday n).map fun weekFromSunday => { p with weekFromSunday }
  | .weekFromMonday =>
    (bounded 0 53 p.weekFromMonday n).map fun weekFromMonday => { p with weekFromMonday }
  | .isoWeek => (bounded 1 53 p.isoWeek n).map fun isoWeek => { p with isoWeek }
  | .daysSinceSunday => if n ≤ 6 then p.setWeekday (.ofSinceMonday (n + 6)) else none
  | .dayOfWeek => if 1 ≤ n && n ≤ 7 then p.setWeekday (.ofSinceMonday (n - 1)) else none
  | .ordinal => (bounded 1 366 p.ordinal n).map fun ordinal => { p with ordinal }
  | .hour => p.setHour n
  | .hour12 =>
    if 1 ≤ n && n ≤ 12 then (agree p.hour12 (n % 12)).map fun hour12 => { p with hour12 } else none
  | .minute => (bounded 0 59 p.minute n).map fun minute => { p with minute }
  | .second => (bounded 0 60 p.second n).map fun second => { p with second }
  | .nanosecond => p.setNanosecond n
  | .timestamp => (agree p.timestamp n).map fun timestamp => { p with timestamp }

/-! ## The date -/

/--
The year from a full year, a century and a year of the century: `some none` if nothing is known of
it. A year of the century alone lies between 1970 and 2069.
-/
def resolveYear (year : Option Int) (century yearOfCentury : Option Nat) : Option (Option Int) :=
  match year, century, yearOfCentury with
  | y, none, none => some y
  | some y, c, r =>
    if 0 ≤ y && c.all (fun c => c == y.toNat / 100) && r.all (fun r => r == y.toNat % 100) then
      some (some y)
    else none
  | none, some c, some r =>
    let y : Int := c * 100 + r
    if yearInRange y then some (some y) else none
  | none, none, some r => some (some (if r < 70 then 2000 + r else 1900 + r))
  | none, some _, none => none

/-- Whether the parts of year, month and day are those of a date. -/
def agreesOnDay (p : DateParts) (d : Date) : Bool :=
  p.year.all (· == d.year) &&
    p.century.all (fun c => 0 ≤ d.year && d.year.toNat / 100 == c) &&
    p.yearOfCentury.all (fun r => 0 ≤ d.year && d.year.toNat % 100 == r) &&
    p.month.all (· == d.month) && p.day.all (· == d.day)

/-- Whether the parts of the ISO week are those of a date. -/
def agreesOnIsoWeek (p : DateParts) (d : Date) : Bool :=
  let (year, week) := d.isoWeek
  p.isoYear.all (· == year) &&
    p.isoYearOfCentury.all (fun r => 0 ≤ year && year.toNat % 100 == r) &&
    p.isoWeek.all (· == week) && p.weekday.all (· == d.weekday)

/-- Whether the day of the year and the plain weeks are those of a date. -/
def agreesOnOrdinal (p : DateParts) (d : Date) : Bool :=
  p.ordinal.all (· == d.ordinal) &&
    p.weekFromSunday.all (· == d.weekNumber Weekday.sinceSunday) &&
    p.weekFromMonday.all (· == d.weekNumber Weekday.sinceMonday)

/-- The date that the parts determine, by the first combination of them that is complete. -/
def candidate? (p : DateParts) (year isoYear : Option Int) : Option Date :=
  match year, p.month, p.day with
  | some y, some m, some d => Date.ofYmd? y m d
  | _, _, _ =>
  match year, p.ordinal with
  | some y, some n => Date.ofOrdinal? y n
  | _, _ =>
  match year, p.weekFromSunday, p.weekday with
  | some y, some week, some w => Date.ofWeek? y week w Weekday.sinceSunday
  | _, _, _ =>
  match year, p.weekFromMonday, p.weekday with
  | some y, some week, some w => Date.ofWeek? y week w Weekday.sinceMonday
  | _, _, _ =>
  match isoYear, p.isoWeek, p.weekday with
  | some y, some week, some w => Date.ofIsoWeek? y week w
  | _, _, _ => none

/-- The date that the parts determine, if all of them agree with it. -/
def date? (p : DateParts) : Option Date := do
  let year ← resolveYear p.year p.century p.yearOfCentury
  let isoYear ← resolveYear p.isoYear none p.isoYearOfCentury
  let d ← p.candidate? year isoYear
  let agrees := p.agreesOnDay d && p.agreesOnIsoWeek d && p.agreesOnOrdinal d &&
    p.quarter.all (· == d.quarter)
  if agrees then some d else none

end DateParts
end WorkItems
