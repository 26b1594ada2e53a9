import WorkItems.Calendar.Date
import WorkItems.Text.Blank
/-!
# Date patterns

A date pattern is text with directives such as `%Y`, `%m` and `%d`, each of which stands for a part
of a date or of a time. `DatePattern.ofText?` reads one; a pattern with an unknown directive is no
pattern at all.
-/

namespace WorkItems

/-- What fills up a number that has fewer digits than its directive asks for. -/
inductive Filling where
  | nothing
  | zeros
  | spaces
deriving DecidableEq, Repr

/-- The numbers that a directive may stand for. -/
inductive NumberPart where
  | year
  | century
  | yearOfCentury
  | isoYear
  | isoYearOfCentury
  | quarter
  | month
  | day
  | weekFromSunday
  | weekFromMonday
  | isoWeek
  | daysSinceSunday
  | dayOfWeek
  | ordinal
  | hour
  | hour12
  | minute
  | second
  | nanosecond
  | timestamp
deriving DecidableEq, Repr

/-- The texts that a directive may stand for. -/
inductive TextPart where
  | shortMonth
  | longMonth
  | shortWeekday
  | longWeekday
  | lowerHalf
  | upperHalf
  /-- The fraction of a second behind a point, where there is one. -/
  | fraction
  /-- A number of digits of the fraction, with or without the point. -/
  | fixedFraction (digits : Nat) (point : Bool)
  | zoneName
  | offset
  | offsetColon
  | offsetSeconds
  | offsetHours
  /-- Reads every form of an offset, and writes none. -/
  | anyOffset
  /-- A date and a time with an offset. -/
  | timestampText
deriving DecidableEq, Repr

inductive PatternItem where
  | literal (c : Char)
  | space (c : Char)
  | number (part : NumberPart) (filling : Filling)
  | text (part : TextPart)
deriving DecidableEq, Repr

/-- A date pattern: its items in order. -/
abbrev DatePattern := List PatternItem

namespace DatePattern

open PatternItem

/-- The number that a letter stands for, and how it is filled up unless the directive says so. -/
def numberOf? : Char → Option (NumberPart × Filling)
  | 'C' => some (.century, .zeros)
  | 'G' => some (.isoYear, .zeros)
  | 'H' => some (.hour, .zeros)
  | 'I' => some (.hour12, .zeros)
  | 'M' => some (.minute, .zeros)
  | 'S' => some (.second, .zeros)
  | 'U' => some (.weekFromSunday, .zeros)
  | 'V' => some (.isoWeek, .zeros)
  | 'W' => some (.weekFromMonday, .zeros)
  | 'Y' => some (.year, .zeros)
  | 'd' => some (.day, .zeros)
  | 'e' => some (.day, .spaces)
  | 'f' => some (.nanosecond, .zeros)
  | 'g' => some (.isoYearOfCentury, .zeros)
  | 'j' => some (.ordinal, .zeros)
  | 'k' => some (.hour, .spaces)
  | 'l' => some (.hour12, .spaces)
  | 'm' => some (.month, .zeros)
  | 'q' => some (.quarter, .nothing)
  | 's' => some (.timestamp, .nothing)
  | 'u' => some (.dayOfWeek, .nothing)
  | 'w' => some (.daysSinceSunday, .nothing)
  | 'y' => some (.yearOfCentury, .zeros)
  | _ => none

def textOf? : Char → Option TextPart
  | 'A' => some .longWeekday
  | 'B' => some .longMonth
  | 'P' => some .lowerHalf
  | 'Z' => some .zoneName
  | 'a' => some .shortWeekday
  | 'b' | 'h' => some .shortMonth
  | 'p' => some .upperHalf
  | 'z' => some .offset
  | '+' => some .timestampText
  | _ => none

def zeroFilled (p : NumberPart) : PatternItem := .number p .zeros

/-- Hours, minutes and seconds with colons. -/
def clock (hours : NumberPart) : DatePattern :=
  [zeroFilled hours, .literal ':', zeroFilled .minute, .literal ':', zeroFilled .second]

/-- The directives that stand for several items. -/
def groupOf? : Char → Option DatePattern
  | 'D' | 'x' => some [zeroFilled .month, .literal '/', zeroFilled .day, .literal '/',
      zeroFilled .yearOfCentury]
  | 'F' => some [zeroFilled .year, .literal '-', zeroFilled .month, .literal '-', zeroFilled .day]
  | 'R' => some [zeroFilled .hour, .literal ':', zeroFilled .minute]
  | 'T' | 'X' => some (clock .hour)
  | 'r' => some (clock .hour12 ++ [.space ' ', .text .upperHalf])
  | 'c' => some ([.text .shortWeekday, .space ' ', .text .shortMonth, .space ' ',
      .number .day .spaces, .space ' '] ++ clock .hour ++ [.space ' ', zeroFilled .year])
  | 'v' => some [.number .day .spaces, .literal '-', .text .shortMonth, .literal '-',
      zeroFilled .year]
  | 'n' => some [.space '\n']
  | 't' => some [.space '\t']
  | '%' => some [.literal '%']
  | _ => none

/-- The directive of one letter. -/
def letter? (c : Char) : Option DatePattern :=
  match numberOf? c, textOf? c with
  | some (p, f), _ => some [.number p f]
  | none, some p => some [.text p]
  | none, none => groupOf? c

/-- The filling that a sign behind the percent sign asks for. -/
def fillingOf? : Char → Option Filling
  | '-' => some .nothing
  | '0' => some .zeros
  | '_' => some .spaces
  | _ => none

/-- A character that stands for itself. -/
def plainItem (c : Char) : PatternItem := if Text.isBlank c then .space c else .literal c

/-- Reads a pattern. -/
def ofChars? : List Char → Option DatePattern
  | [] => some []
  | '%' :: '#' :: 'z' :: cs => (ofChars? cs).map (.text .anyOffset :: ·)
  | '%' :: ':' :: ':' :: ':' :: 'z' :: cs => (ofChars? cs).map (.text .offsetHours :: ·)
  | '%' :: ':' :: ':' :: 'z' :: cs => (ofChars? cs).map (.text .offsetSeconds :: ·)
  | '%' :: ':' :: 'z' :: cs => (ofChars? cs).map (.text .offsetColon :: ·)
  | '%' :: '.' :: 'f' :: cs => (ofChars? cs).map (.text .fraction :: ·)
  | '%' :: '.' :: d :: 'f' :: cs =>
    if d == '3' || d == '6' || d == '9' then
      (ofChars? cs).map (.text (.fixedFraction (Decimal.digitValue d) true) :: ·)
    else none
  | '%' :: c :: d :: cs =>
    match fillingOf? c, numberOf? d with
    | some filling, some (p, _) => (ofChars? cs).map (.number p filling :: ·)
    | some _, none => none
    | none, _ =>
      if (c == '3' || c == '6' || c == '9') && d == 'f' then
        (ofChars? cs).map (.text (.fixedFraction (Decimal.digitValue c) false) :: ·)
      else match letter? c, ofChars? (d :: cs) with
        | some items, some rest => some (items ++ rest)
        | _, _ => none
  | ['%', c] => letter? c
  | ['%'] => none
  | c :: cs => (ofChars? cs).map (plainItem c :: ·)

def ofText? (s : String) : Option DatePattern := ofChars? s.toList

end DatePattern
end WorkItems
