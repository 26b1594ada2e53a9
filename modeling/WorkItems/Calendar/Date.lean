import WorkItems.Decimal.Digits
/-!
# Calendar dates

Dates of the Gregorian calendar, extended to all years between two fixed limits; the year 0 is the
one before the year 1. A `Date` is valid by its type. Days of the week and ISO weeks come from the
number of days since a fixed Monday.
-/

namespace WorkItems

def isLeapYear (y : Int) : Bool := y % 4 == 0 && (y % 100 != 0 || y % 400 == 0)

def daysInYear (y : Int) : Nat := if isLeapYear y then 366 else 365

def daysInMonth (y : Int) (m : Nat) : Nat :=
  match m with
  | 2 => if isLeapYear y then 29 else 28
  | 4 | 6 | 9 | 11 => 30
  | _ => 31

structure Date where
  year : Int
  month : Nat
  day : Nat
  year_bounds : -262143 ≤ year ∧ year ≤ 262142
  month_bounds : 1 ≤ month ∧ month ≤ 12
  day_bounds : 1 ≤ day ∧ day ≤ daysInMonth year month
deriving DecidableEq, Repr

/-- The days of the week; a week starts on Monday. -/
inductive Weekday where
  | monday
  | tuesday
  | wednesday
  | thursday
  | friday
  | saturday
  | sunday
deriving DecidableEq, Repr, Inhabited

namespace Weekday

def all : List Weekday := [monday, tuesday, wednesday, thursday, friday, saturday, sunday]

/-- The number of days since Monday. -/
def sinceMonday (w : Weekday) : Nat := w.ctorIdx

/-- The number of days since Sunday. -/
def sinceSunday (w : Weekday) : Nat := (w.sinceMonday + 1) % 7

def ofSinceMonday (n : Nat) : Weekday := all[n % 7]?.getD monday

end Weekday

namespace Date

def ofYmd? (year : Int) (month day : Nat) : Option Date :=
  if hy : -262143 ≤ year ∧ year ≤ 262142 then
    if hm : 1 ≤ month ∧ month ≤ 12 then
      if hd : 1 ≤ day ∧ day ≤ daysInMonth year month then some ⟨year, month, day, hy, hm, hd⟩
      else none
    else none
  else none

/-- Earlier dates are smaller. -/
def lt (a b : Date) : Bool :=
  a.year < b.year ||
    (a.year == b.year && (a.month < b.month || (a.month == b.month && a.day < b.day)))

/-- The number of days of a year before the month `m`. -/
def daysBefore (y : Int) : Nat → Nat
  | 0 | 1 => 0
  | m + 2 => daysBefore y (m + 1) + daysInMonth y (m + 1)

/-- The day of the year, from 1. -/
def ordinal (d : Date) : Nat := daysBefore d.year d.month + d.day

/-- The date of a day of the year, looked for from the month `m` on. -/
def ofOrdinalFrom? (y : Int) (fuel m n : Nat) : Option Date :=
  match fuel with
  | 0 => none
  | fuel + 1 =>
    if n ≤ daysInMonth y m then ofYmd? y m n
    else ofOrdinalFrom? y fuel (m + 1) (n - daysInMonth y m)

/-- The date of a day of the year. -/
def ofOrdinal? (y : Int) (n : Nat) : Option Date := ofOrdinalFrom? y 12 1 n

/-- The day after. The last date of the calendar has none. -/
def next? (d : Date) : Option Date :=
  if d.day < daysInMonth d.year d.month then ofYmd? d.year d.month (d.day + 1)
  else if d.month < 12 then ofYmd? d.year (d.month + 1) 1
  else ofYmd? (d.year + 1) 1 1

/-- The day after some number of days. -/
def after? (d : Date) : Nat → Option Date
  | 0 => some d
  | n + 1 => d.next?.bind (·.after? n)

/-! ## Weeks -/

/-- The number of days before a year, from the start of the year 1. -/
def daysBeforeYear (y : Int) : Int :=
  let p := y - 1
  365 * p + p / 4 - p / 100 + p / 400

/-- The first day of the year 1 is a Monday. -/
def weekdayOf (y : Int) (ordinal : Nat) : Weekday :=
  .ofSinceMonday ((daysBeforeYear y + ordinal - 1) % 7).toNat

def weekday (d : Date) : Weekday := weekdayOf d.year d.ordinal

/-- The number of the week when week 1 starts with the first day that lies `since` days 0. -/
def weekNumber (d : Date) (since : Weekday → Nat) : Nat :=
  (d.ordinal + 6 - since d.weekday) / 7

/-- The number of ISO weeks of a year: 53 if its first or last day is a Thursday. -/
def isoWeeksInYear (y : Int) : Nat :=
  if weekdayOf y 1 == .thursday || weekdayOf y (daysInYear y) == .thursday then 53 else 52

/-- The ISO year and week: the week belongs to the year of its Thursday. -/
def isoWeek (d : Date) : Int × Nat :=
  let week := (d.ordinal + 9 - d.weekday.sinceMonday) / 7
  if week = 0 then (d.year - 1, isoWeeksInYear (d.year - 1))
  else if isoWeeksInYear d.year < week then (d.year + 1, 1)
  else (d.year, week)

/-- The date of a day of an ISO week. -/
def ofIsoWeek? (y : Int) (week : Nat) (w : Weekday) : Option Date :=
  if week = 0 || isoWeeksInYear y < week then none
  else
    let offset : Int := ((weekdayOf y 4).sinceMonday : Int) - 4
    let n : Int := (week - 1) * 7 + w.sinceMonday - offset
    if n ≤ 0 then ofOrdinal? (y - 1) ((daysInYear (y - 1) : Int) + n).toNat
    else if (daysInYear y : Int) < n then ofOrdinal? (y + 1) (n - daysInYear y).toNat
    else ofOrdinal? y n.toNat

/--
The date of a day of a week, when week 1 starts with the first day of the year that lies `since`
days 0 and the days before it are week 0.
-/
def ofWeek? (y : Int) (week : Nat) (w : Weekday) (since : Weekday → Nat) : Option Date :=
  let firstDay := since (weekdayOf y 1)
  let start : Int := 1 + ((7 - firstDay) % 7 : Nat)
  let n : Int := start + ((week : Int) - 1) * 7 + since w
  if 53 < week || n ≤ 0 then none else ofOrdinal? y n.toNat

/-- The quarter of the year, from 1. -/
def quarter (d : Date) : Nat := (d.month - 1) / 3 + 1

/-! ## Text -/

/-- Years from 0 to 9999 have four digits; all others have a sign in front of them. -/
def yearText (y : Int) : List Char :=
  if 0 ≤ y && y ≤ 9999 then Decimal.padded 4 y.toNat
  else (if y < 0 then '-' else '+') :: Decimal.padded 4 y.natAbs

/-- The date as `year-month-day`. -/
def isoText (d : Date) : String :=
  String.ofList <|
    yearText d.year ++ '-' :: Decimal.padded 2 d.month ++ '-' :: Decimal.padded 2 d.day

end Date
end WorkItems
