import WorkItems.Calendar.Pattern.Parts
import WorkItems.Calendar.Pattern.Printer
import WorkItems.Power
import WorkItems.Text.Pieces
/-!
# Reading dates by a pattern

Reading is more lenient than writing: blanks may stand in front of a number, a number may have
fewer digits than its directive writes, and names are read in any case. The whole text has to be
read, and the parts found have to determine a date.
-/

namespace WorkItems.DatePattern

/-! ## Digits and names

What takes something from the front of a text gives it with the rest of the text.
-/

/-- Reads at least one digit and at most `width`. Numbers have to fit into 63 bits. -/
def takeNumber (width : Nat) (cs : List Char) : Option (Nat × List Char) :=
  let ds := (cs.take width).takeWhile Char.isDigit
  let n := Decimal.value ds
  if ds.isEmpty || bitBound 63 ≤ n then none else some (n, cs.drop ds.length)

/-- Reads digits without a limit on their number. -/
def takeDigits (cs : List Char) : Option (Nat × List Char) := takeNumber cs.length cs

/-- Reads exactly `width` digits. -/
def takeFixed (width : Nat) (cs : List Char) : Option (Nat × List Char) :=
  let ds := cs.take width
  if ds.length == width && ds.all Char.isDigit then some (Decimal.value ds, cs.drop width) else none

/-- The number that reads `width` digits, or with a sign in front any number of them. -/
def takeSigned (width : Nat) (cs : List Char) : Option (Int × List Char) :=
  match cs with
  | '-' :: cs => (takeDigits cs).map fun (n, rest) => (-(n : Int), rest)
  | '+' :: cs => (takeDigits cs).map fun (n, rest) => ((n : Int), rest)
  | _ => (takeNumber width cs).map fun (n, rest) => ((n : Int), rest)

/-- The text behind a word, which is read in any case. -/
def behindWord? (word cs : List Char) : Option (List Char) :=
  if (cs.take word.length).map Char.toLower == word.map Char.toLower then
    some (cs.drop word.length)
  else none

/-- Reads the first three letters of one of the names, and gives its place. -/
def takeShortName (names : List String) (cs : List Char) : Option (Nat × List Char) :=
  (names.zipIdx).findSome? fun (name, i) =>
    (behindWord? (name.toList.take 3) cs).map fun rest => (i, rest)

/-- Reads one of the names in full, or its first three letters. -/
def takeLongName (names : List String) (cs : List Char) : Option (Nat × List Char) := do
  let (i, rest) ← takeShortName names cs
  let name := (names[i]?.getD "").toList
  some (i, (behindWord? (name.drop 3) rest).getD rest)

/-- Reads the digits of a fraction of a second. Digits after the ninth do not count. -/
def takeFraction (cs : List Char) : Option (Nat × List Char) := do
  let (n, rest) ← takeNumber 9 cs
  some (n * 10 ^ (9 - (cs.length - rest.length)), rest.dropWhile Char.isDigit)

/-! ## Offsets from UTC -/

/-- How an offset may be written. -/
structure OffsetStyle where
  /-- A letter `Z` stands for no offset. -/
  zulu : Bool
  /-- The minutes may be missing at the end of the text. -/
  hoursAlone : Bool
  /-- A single colon has to stand between hours and minutes; else any colons and blanks may. -/
  strictColon : Bool

def isColonOrBlank (c : Char) : Bool := c == ':' || Text.isBlank c

/-- Reads the separator between the hours and the minutes of an offset. -/
def behindSeparator? (style : OffsetStyle) (cs : List Char) : Option (List Char) :=
  if style.strictColon then
    match cs with
    | ':' :: cs => some cs
    | _ => none
  else some (cs.dropWhile isColonOrBlank)

/-- The sign of an offset; the minus sign of typography is one too. -/
def isNegative? : Char → Option Bool
  | '+' => some false
  | '-' | '\u2212' => some true
  | _ => none

/-- Reads an offset with a sign, in seconds. -/
def takeSignedOffset (style : OffsetStyle) (sign : Char) (cs : List Char) :
    Option (Int × List Char) := do
  let negative ← isNegative? sign
  let (hours, cs) ← takeFixed 2 cs
  let cs ← behindSeparator? style cs
  let (minutes, cs) ← if cs.isEmpty && style.hoursAlone then some (0, cs) else takeFixed 2 cs
  if 59 < minutes then none
  let seconds : Int := hours * 3600 + minutes * 60
  some (if negative then -seconds else seconds, cs)

def takeOffset (style : OffsetStyle) (cs : List Char) : Option (Int × List Char) :=
  match cs with
  | [] => none
  | c :: rest =>
    if style.zulu && (c == 'Z' || c == 'z') then some (0, rest) else takeSignedOffset style c rest

/-- The style of the directives that name an offset. -/
def plainOffset : OffsetStyle := ⟨false, false, false⟩

def lenientOffset : OffsetStyle := ⟨true, true, false⟩

/-! ## Items -/

/-- The number of digits that a number directive reads, unless it is signed or unlimited. -/
def widthOf : NumberPart → Nat
  | .year | .isoYear => 4
  | .quarter | .daysSinceSunday | .dayOfWeek => 1
  | .ordinal => 3
  | .nanosecond => 9
  | _ => 2

/-- Reads the number of a directive. Only years may have a sign. -/
def takePart (part : NumberPart) (cs : List Char) : Option (Int × List Char) :=
  match part with
  | .year | .isoYear => takeSigned 4 cs
  | .timestamp => (takeDigits cs).map fun (n, rest) => ((n : Int), rest)
  | _ => (takeNumber (widthOf part) cs).map fun (n, rest) => ((n : Int), rest)

/-- What has been read so far, and the rest of the text. -/
abbrev Progress := Option (DateParts × List Char)

def readNumber (part : NumberPart) (p : DateParts) (cs : List Char) : Progress := do
  let (v, rest) ← takePart part (cs.dropWhile Text.isBlank)
  let p ← p.setNumber part v
  some (p, rest)

def readMonth (p : DateParts) (taken : Option (Nat × List Char)) : Progress := do
  let (i, rest) ← taken
  some (← p.setMonth (i + 1), rest)

def readWeekday (p : DateParts) (taken : Option (Nat × List Char)) : Progress := do
  let (i, rest) ← taken
  some (← p.setWeekday (.ofSinceMonday i), rest)

def readNanosecond (p : DateParts) (taken : Option (Nat × List Char)) : Progress := do
  let (n, rest) ← taken
  some (← p.setNanosecond n, rest)

def readOffset (style : OffsetStyle) (p : DateParts) (cs : List Char) : Progress := do
  let (seconds, rest) ← takeOffset style cs
  some (← p.setOffset seconds, rest)

/-- Reads one of the halves of the day. -/
def readHalf (p : DateParts) (cs : List Char) : Progress :=
  match behindWord? "am".toList cs, behindWord? "pm".toList cs with
  | some rest, _ => (p.setAfternoon false).map (·, rest)
  | none, some rest => (p.setAfternoon true).map (·, rest)
  | none, none => none

/-- Reads the fraction of a second that a number of digits gives. -/
def takeFixedFraction (digits : Nat) (cs : List Char) : Option (Nat × List Char) :=
  (takeFixed digits cs).map fun (n, rest) => (n * 10 ^ (9 - digits), rest)

/-- Reads what has a point in front of it, if there is a point. -/
def behindPoint (take : List Char → Option (Nat × List Char)) (p : DateParts)
    (cs : List Char) : Progress :=
  match cs with
  | '.' :: cs => readNanosecond p (take cs)
  | _ => some (p, cs)

/-- Reads one item, the date and time with an offset apart. -/
def readSimple (item : PatternItem) (p : DateParts) (cs : List Char) : Progress :=
  match item with
  | .literal c =>
    match cs with
    | d :: rest => if d = c then some (p, rest) else none
    | [] => none
  | .space _ => some (p, cs.dropWhile Text.isBlank)
  | .number part _ => readNumber part p cs
  | .text .shortMonth => readMonth p (takeShortName monthNames cs)
  | .text .longMonth => readMonth p (takeLongName monthNames cs)
  | .text .shortWeekday => readWeekday p (takeShortName weekdayNames cs)
  | .text .longWeekday => readWeekday p (takeLongName weekdayNames cs)
  | .text .lowerHalf | .text .upperHalf => readHalf p cs
  | .text .fraction => behindPoint takeFraction p cs
  | .text (.fixedFraction digits true) => behindPoint (takeFixedFraction digits) p cs
  | .text (.fixedFraction digits false) => readNanosecond p (takeFixedFraction digits cs)
  | .text .zoneName => some (p, cs.dropWhile (!Text.isBlank ·))
  | .text .anyOffset => readOffset lenientOffset p (cs.dropWhile Text.isBlank)
  | .text .timestampText => none
  | .text _ => readOffset plainOffset p (cs.dropWhile Text.isBlank)

def readSimples (items : DatePattern) (p : DateParts) (cs : List Char) : Progress :=
  match items with
  | [] => some (p, cs)
  | item :: rest =>
    match readSimple item p cs with
    | some (p, cs) => readSimples rest p cs
    | none => none

/-- The items of the day in a date and time with an offset. -/
def dayItems : DatePattern :=
  [zeroFilled .year, .space ' ', .literal '-', zeroFilled .month, .space ' ', .literal '-',
    zeroFilled .day]

/-- The items of the time in a date and time with an offset. -/
def timeItems : DatePattern :=
  [zeroFilled .hour, .space ' ', .literal ':', zeroFilled .minute, .space ' ', .literal ':',
    zeroFilled .second, .text .fraction, .space ' ']

/-- Whether a character stands between a date and a time. -/
def isTimeMark (c : Char) : Bool := c == 't' || c == 'T' || c == ' '

/-- Reads a date and a time with an offset, for which `UTC` may stand. -/
def readTimestamp (p : DateParts) (cs : List Char) : Progress :=
  match readSimples dayItems p cs with
  | some (p, mark :: cs) =>
    if isTimeMark mark then
      match readSimples timeItems p cs with
      | some (p, cs) =>
        match behindWord? "utc".toList cs with
        | some rest => (p.setOffset 0).map (·, rest)
        | none => readOffset ⟨true, false, false⟩ p cs
      | none => none
    else none
  | _ => none

def readItem (item : PatternItem) (p : DateParts) (cs : List Char) : Progress :=
  match item with
  | .text .timestampText => readTimestamp p cs
  | _ => readSimple item p cs

/-- Reads the items in order. -/
def readItems (items : DatePattern) (p : DateParts) (cs : List Char) : Progress :=
  match items with
  | [] => some (p, cs)
  | item :: rest =>
    match readItem item p cs with
    | some (p, cs) => readItems rest p cs
    | none => none

/-- The date that a whole text shows by a pattern. -/
def read? (p : DatePattern) (s : String) : Option Date :=
  match p.readItems .empty s.toList with
  | some (parts, []) => parts.date?
  | _ => none

/-- The date that a whole text shows by the text of a pattern, if that is one. -/
def parse? (pattern : String) (s : String) : Option Date := (ofText? pattern).bind (read? · s)

/-! ## Internet timestamps -/

/-- Reads one character. -/
def behindChar? (c : Char) : List Char → Option (List Char)
  | d :: rest => if d = c then some rest else none
  | [] => none

/-- The largest offset of a timestamp on the internet, in seconds. -/
def maxOffset : Int := 86340

/-- The date of an internet timestamp: all numbers are full, and an offset is given. -/
def timestamp? (s : String) : Option Date := do
  let (year, cs) ← takeFixed 4 s.toList
  let (month, cs) ← takeFixed 2 (← behindChar? '-' cs)
  let (day, cs) ← takeFixed 2 (← behindChar? '-' cs)
  let mark ← cs.head?
  if !isTimeMark mark then none
  let (hour, cs) ← takeFixed 2 cs.tail
  let (minute, cs) ← takeFixed 2 (← behindChar? ':' cs)
  let (second, cs) ← takeFixed 2 (← behindChar? ':' cs)
  if 23 < hour || 59 < minute || 60 < second then none
  let cs ← match cs with
    | '.' :: cs => (takeFraction cs).map (·.2)
    | _ => some cs
  let (offset, cs) ← takeOffset ⟨true, false, true⟩ cs
  if maxOffset < offset || offset < -maxOffset || !cs.isEmpty then none
  Date.ofYmd? year month day

end WorkItems.DatePattern
