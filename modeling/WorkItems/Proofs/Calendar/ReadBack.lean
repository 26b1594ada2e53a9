import WorkItems.Proofs.Calendar.Numbers
/-!
# Formats that read back what they write

What was written by a pattern of numbers and names of months, in which nothing runs into a number,
is read as the parts of the date that the pattern names. If these are year, month and day, the
format reads back every date (`DatePattern.IsSeparated`), and the standard format is one of these.
With two digits of the year instead of all of them (`DatePattern.IsShortened`) it reads back the
dates between 1970 and 2069 alone, although `DateFormat.check` accepts it.
-/

namespace WorkItems

/-! ## What has been read of a date -/

namespace DateParts

/-- The year, a year of the century, the month and the day, as far as they are named. -/
def ofDate (d : Date) (named : NumberPart → Bool) : DateParts :=
  { year := if named .year then some d.year else none
    yearOfCentury := if named .yearOfCentury then some (d.year.fmod 100).toNat else none
    month := if named .month then some d.month else none
    day := if named .day then some d.day else none }

/-- The number that stands for a part. -/
def number (d : Date) : NumberPart → Int
  | .year => d.year
  | .yearOfCentury => ((d.year.fmod 100).toNat : Nat)
  | .month => d.month
  | _ => d.day

/-- Whether a part is one of these four. -/
def isDayPart (part : NumberPart) : Bool :=
  part == .year || part == .yearOfCentury || part == .month || part == .day

theorem daysInMonth_le (y : Int) (m : Nat) : daysInMonth y m ≤ 31 := by
  unfold daysInMonth
  split
  · split <;> decide
  all_goals decide

theorem yearOfCentury_lt (y : Int) : (y.fmod 100).toNat < 100 := by
  rw [Int.fmod_eq_emod_of_nonneg y (by decide)]
  omega

theorem agree_ofDate {α : Type} [DecidableEq α] (old : Bool) (a : α) :
    agree (if old then some a else none) a = some (some a) := by
  cases old
  · rfl
  · exact if_pos rfl

theorem bounded_ofDate {low high n : Nat} (h : low ≤ n ∧ n ≤ high) (old : Bool) :
    bounded low high (if old then some n else none) n = some (some n) := by
  have hn : (decide (low ≤ n) && decide (n ≤ high)) = true := by simp [h]
  rw [bounded, if_pos hn, agree_ofDate]

/-- A part that is read names itself, and changes nothing else. -/
theorem setNumber_ofDate {part : NumberPart} (hpart : isDayPart part = true) (d : Date)
    (named : NumberPart → Bool) :
    (ofDate d named).setNumber part (number d part) =
      some (ofDate d fun q => named q || q == part) := by
  have hyear := d.year_bounds
  have hday : d.day ≤ 31 := Nat.le_trans d.day_bounds.2 (daysInMonth_le ..)
  cases part with
  | year =>
      have hrange : yearInRange d.year = true := by
        rw [yearInRange, bitBound, Bool.and_eq_true, decide_eq_true_eq, decide_eq_true_eq]
        omega
      simp [setNumber, number, hrange, ofDate, agree_ofDate]
  | yearOfCentury =>
      have hle : 0 ≤ (d.year.fmod 100).toNat ∧ (d.year.fmod 100).toNat ≤ 99 :=
        ⟨Nat.zero_le _, Nat.le_of_lt_succ (yearOfCentury_lt d.year)⟩
      simp only [setNumber, number, Int.toNat_natCast]
      simp [ofDate, bounded_ofDate hle]
  | month => simp [setNumber, number, setMonth, ofDate, bounded_ofDate d.month_bounds]
  | day => simp [setNumber, number, ofDate, bounded_ofDate ⟨d.day_bounds.1, hday⟩]
  | _ => cases hpart

/-! ## The date that year, month and day determine -/

variable {d : Date} {named : NumberPart → Bool}

theorem ofYmd?_self (d : Date) : Date.ofYmd? d.year d.month d.day = some d := by
  rw [Date.ofYmd?, dif_pos d.year_bounds, dif_pos d.month_bounds, dif_pos d.day_bounds]

theorem date?_ofDate (hyear : named .year = true) (hcentury : named .yearOfCentury = false)
    (hmonth : named .month = true) (hday : named .day = true) :
    (ofDate d named).date? = some d := by
  let p := ofDate d named
  have hresolved : resolveYear p.year p.century p.yearOfCentury = some (some d.year) := by
    simp [p, ofDate, hyear, hcentury, resolveYear]
  have hisoYear : resolveYear p.isoYear none p.isoYearOfCentury = some none := rfl
  have hcandidate : p.candidate? (some d.year) none = some d := by
    simp [p, candidate?, ofDate, hmonth, hday, ofYmd?_self]
  have hagrees : (p.agreesOnDay d && p.agreesOnIsoWeek d && p.agreesOnOrdinal d &&
      p.quarter.all (· == d.quarter)) = true := by
    simp [p, agreesOnDay, agreesOnIsoWeek, agreesOnOrdinal, ofDate, hyear, hcentury, hmonth, hday]
  simp only [date?, p, hresolved, hisoYear, hcandidate, hagrees, Option.bind_eq_bind,
    Option.bind_some, if_true]

/-- The year between 1970 and 2069 with the same last two digits. -/
def nearYear (y : Int) : Int :=
  let r := (y.fmod 100).toNat
  if r < 70 then 2000 + r else 1900 + r

theorem nearYear_eq_iff (y : Int) : nearYear y = y ↔ 1970 ≤ y ∧ y ≤ 2069 := by
  rw [nearYear, Int.fmod_eq_emod_of_nonneg y (by decide)]
  split <;> omega

theorem emod_nearYear (y : Int) :
    (nearYear y).toNat % 100 = (y.fmod 100).toNat ∧ 0 ≤ nearYear y := by
  have hlt := yearOfCentury_lt y
  rw [nearYear]
  split <;> omega

theorem ofYmd?_eq_some {y : Int} {m n : Nat} {e : Date} (h : Date.ofYmd? y m n = some e) :
    e.year = y ∧ e.month = m ∧ e.day = n := by
  rw [Date.ofYmd?] at h
  split at h
  · split at h
    · split at h
      · cases h
        exact ⟨rfl, rfl, rfl⟩
      · cases h
    · cases h
  · cases h

/-- Two digits of the year stand for the one between 1970 and 2069. -/
theorem date?_ofDate_short (hyear : named .year = false) (hcentury : named .yearOfCentury = true)
    (hmonth : named .month = true) (hday : named .day = true) :
    (ofDate d named).date? = Date.ofYmd? (nearYear d.year) d.month d.day := by
  let p := ofDate d named
  have hresolved : resolveYear p.year p.century p.yearOfCentury =
      some (some (nearYear d.year)) := by
    simp [p, ofDate, hyear, hcentury, resolveYear, nearYear]
  have hisoYear : resolveYear p.isoYear none p.isoYearOfCentury = some none := rfl
  have hcandidate : p.candidate? (some (nearYear d.year)) none =
      Date.ofYmd? (nearYear d.year) d.month d.day := by
    simp [p, candidate?, ofDate, hmonth, hday]
  simp only [date?, p, hresolved, hisoYear, hcandidate, Option.bind_eq_bind, Option.bind_some]
  cases he : Date.ofYmd? (nearYear d.year) d.month d.day with
  | none => rfl
  | some e =>
      obtain ⟨hy, hm, hn⟩ := ofYmd?_eq_some he
      obtain ⟨hmod, hnonneg⟩ := emod_nearYear d.year
      have hagrees : (p.agreesOnDay e && p.agreesOnIsoWeek e && p.agreesOnOrdinal e &&
          p.quarter.all (· == e.quarter)) = true := by
        simp [p, agreesOnDay, agreesOnIsoWeek, agreesOnOrdinal, ofDate, hyear, hcentury, hmonth,
          hday, hy, hm, hn, hmod, hnonneg]
      simp only [Option.bind_some, p, hagrees, if_true]

/-- A date with two digits of its year is found again if it lies between 1970 and 2069. -/
theorem date?_ofDate_short_iff (hyear : named .year = false)
    (hcentury : named .yearOfCentury = true)
    (hmonth : named .month = true) (hday : named .day = true) :
    (ofDate d named).date? = some d ↔ 1970 ≤ d.year ∧ d.year ≤ 2069 := by
  rw [date?_ofDate_short hyear hcentury hmonth hday, ← nearYear_eq_iff]
  constructor
  · exact fun h => (ofYmd?_eq_some h).1.symm
  · intro h
    rw [h, ofYmd?_self]

end DateParts

namespace DatePattern

/-! ## Names of months -/

/-- Whether a text is the name of a month. -/
def isMonthName (part : TextPart) : Bool := part == .shortMonth || part == .longMonth

theorem month_cases {m : Nat} (h : 1 ≤ m ∧ m ≤ 12) :
    m = 1 ∨ m = 2 ∨ m = 3 ∨ m = 4 ∨ m = 5 ∨ m = 6 ∨ m = 7 ∨ m = 8 ∨ m = 9 ∨ m = 10 ∨ m = 11 ∨
      m = 12 := by
  omega

theorem takeShortName_monthName (d : Date) (rest : List Char) :
    takeShortName monthNames ((monthName d).take 3 ++ rest) = some (d.month - 1, rest) := by
  rw [monthName]
  rcases month_cases d.month_bounds with h | h | h | h | h | h | h | h | h | h | h | h <;>
    rw [h] <;> rfl

theorem takeLongName_monthName (d : Date) (rest : List Char) :
    takeLongName monthNames (monthName d ++ rest) = some (d.month - 1, rest) := by
  rw [monthName]
  rcases month_cases d.month_bounds with h | h | h | h | h | h | h | h | h | h | h | h <;>
    rw [h] <;> rfl

/-- Names of months start with a letter. -/
theorem monthName_eq_cons (d : Date) :
    ∃ c cs, monthName d = c :: cs ∧ Text.isBlank c = false ∧ Decimal.isDigit c = false := by
  rw [monthName]
  rcases month_cases d.month_bounds with h | h | h | h | h | h | h | h | h | h | h | h <;>
    rw [h] <;> exact ⟨_, _, rfl, rfl, rfl⟩

/-- Names of months are written, and start with a letter. -/
theorem textText?_monthName {part : TextPart} (hpart : isMonthName part = true) (d : Date) :
    ∃ c cs, textText? d part = some (c :: cs) ∧ Text.isBlank c = false ∧
      Decimal.isDigit c = false := by
  obtain ⟨c, cs, hname, hblank, hdigit⟩ := monthName_eq_cons d
  cases part with
  | shortMonth => exact ⟨c, cs.take 2, by rw [textText?, hname]; rfl, hblank, hdigit⟩
  | longMonth => exact ⟨c, cs, by rw [textText?, hname], hblank, hdigit⟩
  | _ => cases hpart

/-- The name of a month is read as that month, whatever follows it. -/
theorem readItem_monthName {part : TextPart} (hpart : isMonthName part = true) {d : Date}
    {name : List Char} (hname : textText? d part = some name) (parts : DateParts)
    (rest : List Char) :
    readItem (.text part) parts (name ++ rest) =
      (parts.setNumber .month d.month).map (·, rest) := by
  have hmonth : d.month - 1 + 1 = d.month := Nat.sub_add_cancel d.month_bounds.1
  have hset : ∀ taken, taken = some (d.month - 1, rest) →
      readMonth parts taken = (parts.setNumber .month d.month).map (·, rest) := by
    rintro _ rfl
    simp only [readMonth, Option.bind_eq_bind, Option.bind_some, hmonth, DateParts.setNumber,
      Int.toNat_natCast]
    cases parts.setMonth d.month <;> rfl
  cases part with
  | shortMonth =>
      cases hname
      exact hset _ (takeShortName_monthName d rest)
  | longMonth =>
      cases hname
      exact hset _ (takeLongName_monthName d rest)
  | _ => cases hpart

/-! ## Patterns with numbers apart -/

/-- Whether the text of a pattern is empty or starts with something else than a digit. -/
def startsApart : DatePattern → Bool
  | [] => true
  | .literal c :: _ => !Decimal.isDigit c
  | .space c :: _ => Text.isBlank c
  | .number _ _ :: _ => false
  | .text part :: _ => isMonthName part

/-- Years, months and days, with something between the numbers that is no digit. -/
def isApart : DatePattern → Bool
  | [] => true
  | .literal c :: rest => !Text.isBlank c && isApart rest
  | .space c :: rest => Text.isBlank c && isApart rest
  | .number part _ :: rest => DateParts.isDayPart part && startsApart rest && isApart rest
  | .text part :: rest => isMonthName part && isApart rest

/-- Whether a part of a date occurs in a pattern. -/
def names : DatePattern → NumberPart → Bool
  | [], _ => false
  | .number p _ :: rest, part => part == p || names rest part
  | .text p :: rest, part => (isMonthName p && part == .month) || names rest part
  | _ :: rest, part => names rest part

variable {p : DatePattern} {d : Date}

theorem write?_cons {item : PatternItem} {cs : List Char} :
    write? (item :: p) d = some cs ↔
      ∃ first rest, itemText? d item = some first ∧ p.write? d = some rest ∧
      cs = first ++ rest := by
  rw [write?]
  constructor
  · intro h
    split at h
    · rename_i first rest hfirst hrest
      exact ⟨first, rest, hfirst, hrest, (Option.some.inj h).symm⟩
    · cases h
  · rintro ⟨first, rest, hfirst, hrest, rfl⟩
    simp only [hfirst, hrest]

/-- What is written for a pattern that starts apart does not go on with a digit. -/
theorem endsNumber_of_startsApart (hp : p.startsApart = true) {cs : List Char}
    (hcs : p.write? d = some cs) : EndsNumber cs := by
  cases p with
  | nil =>
      cases hcs
      exact fun c hc => nomatch hc
  | cons item rest =>
      obtain ⟨first, behind, hfirst, -, rfl⟩ := write?_cons.1 hcs
      cases item with
      | literal c =>
          cases hfirst
          rintro _ ⟨⟩
          simpa [startsApart] using hp
      | space c =>
          cases hfirst
          rintro _ ⟨⟩
          rw [startsApart] at hp
          cases hdigit : Decimal.isDigit c with
          | false => rfl
          | true => exact absurd (Numbering.isBlank_of_isDigit hdigit) (by simp [hp])
      | number part filling => cases hp
      | text part =>
          obtain ⟨c, cs, hname, -, hdigit⟩ := textText?_monthName hp d
          obtain rfl := Option.some.inj (hfirst.symm.trans hname)
          rintro _ ⟨⟩
          exact hdigit

/-- Every date can be written by a pattern with its numbers apart. -/
theorem exists_write?_of_isApart (hp : p.isApart = true) (d : Date) :
    ∃ cs, p.write? d = some cs := by
  induction p with
  | nil => exact ⟨[], rfl⟩
  | cons item rest ih =>
      have hitem : ∃ first, itemText? d item = some first := by
        cases item with
        | text part =>
            obtain ⟨c, cs, hname, -⟩ := textText?_monthName (Bool.and_eq_true_iff.1 hp).1 d
            exact ⟨_, hname⟩
        | _ => exact ⟨_, rfl⟩
      have hrest : isApart rest = true := by
        cases item <;> exact (Bool.and_eq_true_iff.1 hp).2
      obtain ⟨first, hfirst⟩ := hitem
      obtain ⟨behind, hbehind⟩ := ih hrest
      exact ⟨first ++ behind, write?_cons.2 ⟨first, behind, hfirst, hbehind, rfl⟩⟩

/-- A part is read as what was written for it, whatever is known already. -/
theorem readNumber_written {part : NumberPart} (hpart : DateParts.isDayPart part = true)
    (filling : Filling) {rest cs : List Char} (hrest : EndsNumber rest)
    (hcs : cs.dropWhile Text.isBlank =
      (numberText d filling part ++ rest).dropWhile Text.isBlank) (named : NumberPart → Bool) :
    readNumber part (.ofDate d named) cs =
      some (.ofDate d fun q => named q || q == part, rest) := by
  have hreads : Reads part (numberText d filling part) (DateParts.number d part) := by
    cases part with
    | year => exact reads_yearNumber d filling
    | yearOfCentury => exact reads_twoPlaces (.inl rfl) (DateParts.yearOfCentury_lt d.year) filling
    | month =>
        have hmonth : d.month < 100 := by
          have := d.month_bounds
          omega
        exact reads_twoPlaces (.inr (.inl rfl)) hmonth filling
    | day =>
        have hday : d.day < 100 := by
          have := d.day_bounds
          have := DateParts.daysInMonth_le d.year d.month
          omega
        exact reads_twoPlaces (.inr (.inr rfl)) hday filling
    | _ => cases hpart
  rw [readNumber, hcs, hreads rest hrest]
  simp only [Option.bind_eq_bind, Option.bind_some, DateParts.setNumber_ofDate hpart]

/-- The name of a month is read as the month that was written, whatever is known already. -/
theorem readMonthName_written {part : TextPart} (hpart : isMonthName part = true) {name : List Char}
    (hname : textText? d part = some name) (rest : List Char) (named : NumberPart → Bool) :
    readItem (.text part) (.ofDate d named) (name ++ rest) =
      some (.ofDate d fun q => named q || q == .month, rest) := by
  have hmonth : DateParts.isDayPart .month = true := rfl
  have hset := DateParts.setNumber_ofDate hmonth d named
  rw [DateParts.number] at hset
  rw [readItem_monthName hpart hname, hset]
  rfl

/-- Blanks that are passed over may be missing. -/
theorem dropWhile_isBlank_of_eq {cs ds : List Char}
    (h : cs = ds ∨ cs = ds.dropWhile Text.isBlank) :
    cs.dropWhile Text.isBlank = ds.dropWhile Text.isBlank := by
  rcases h with rfl | rfl
  · rfl
  · exact Text.dropWhile_eq_self fun _ hc => Text.head?_dropWhile hc

/--
Reading what was written finds the parts that the pattern names. The blanks at the start may be
missing, because a blank of the pattern in front of them reads them all.
-/
theorem readItems_written (hp : p.isApart = true) {written : List Char}
    (hwritten : p.write? d = some written) {cs : List Char}
    (hcs : cs = written ∨ cs = written.dropWhile Text.isBlank) (named : NumberPart → Bool) :
    p.readItems (.ofDate d named) cs = some (.ofDate d fun q => named q || p.names q, []) := by
  induction p generalizing written cs named with
  | nil =>
      cases hwritten
      have hnil : cs = [] := by
        rcases hcs with rfl | rfl <;> rfl
      simp [readItems, hnil, names]
  | cons item rest ih =>
      obtain ⟨first, behind, hfirst, hbehind, rfl⟩ := write?_cons.1 hwritten
      cases item with
      | text part =>
          obtain ⟨hpart, hrest⟩ := Bool.and_eq_true_iff.1 hp
          obtain ⟨c, name, hname, hblank, -⟩ := textText?_monthName hpart d
          obtain rfl := Option.some.inj (hfirst.symm.trans hname)
          have hcs : cs = c :: name ++ behind := by
            rw [List.cons_append, dropWhile_isBlank_cons hblank, or_self] at hcs
            exact hcs
          rw [hcs, readItems, readMonthName_written hpart hname]
          simp only [names, hpart, Bool.true_and, ← Bool.or_assoc]
          exact ih hrest hbehind (.inl rfl) _
      | literal c =>
          cases hfirst
          obtain ⟨hc, hrest⟩ := Bool.and_eq_true_iff.1 hp
          have hcs : cs = c :: behind := by
            rw [List.singleton_append, dropWhile_isBlank_cons (by simpa using hc), or_self] at hcs
            exact hcs
          have hitem : readItem (.literal c) (.ofDate d named) cs =
              some (.ofDate d named, behind) := by
            rw [hcs]
            exact if_pos rfl
          rw [readItems, hitem]
          exact ih hrest hbehind (.inl rfl) named
      | space c =>
          cases hfirst
          obtain ⟨hc, hrest⟩ := Bool.and_eq_true_iff.1 hp
          have hdrop := dropWhile_isBlank_of_eq hcs
          rw [List.singleton_append, List.dropWhile_cons_of_pos hc] at hdrop
          exact ih hrest hbehind (.inr hdrop) named
      | number part filling =>
          cases hfirst
          simp only [isApart, Bool.and_eq_true] at hp
          obtain ⟨⟨hpart, hstart⟩, hrest⟩ := hp
          have hitem : readItem (.number part filling) (.ofDate d named) cs = _ :=
            readNumber_written hpart filling (endsNumber_of_startsApart hstart hbehind)
              (dropWhile_isBlank_of_eq hcs) named
          rw [readItems, hitem]
          simp only [names, ← Bool.or_assoc]
          exact ih hrest hbehind (.inl rfl) _

/-- What was written by a pattern is read as the date that the named parts determine. -/
theorem read?_written (hp : p.isApart = true) {cs : List Char} (hcs : p.write? d = some cs) :
    p.read? (String.ofList cs) = (DateParts.ofDate d p.names).date? := by
  have hread : p.readItems .empty cs = some (.ofDate d fun q => false || p.names q, []) :=
    readItems_written hp hcs (.inl rfl) fun _ => false
  rw [read?, String.toList_ofList, hread]
  simp only [Bool.false_or]

/-! ## Patterns that show a date -/

/-- A pattern that shows month and day, and nothing that runs into a number. -/
structure ShowsDay (p : DatePattern) : Prop where
  apart : p.isApart = true
  month : p.names .month = true
  day : p.names .day = true

/-- A pattern that shows year, month and day, and nothing that runs into a number. -/
structure IsSeparated (p : DatePattern) : Prop extends ShowsDay p where
  year : p.names .year = true
  yearOfCentury : p.names .yearOfCentury = false

/-- A pattern that shows two digits of the year instead of all of them. -/
structure IsShortened (p : DatePattern) : Prop extends ShowsDay p where
  year : p.names .year = false
  yearOfCentury : p.names .yearOfCentury = true

/-- A separated pattern reads back every date that it wrote. -/
theorem IsSeparated.read?_eq_some (hp : p.IsSeparated) {cs : List Char}
    (hcs : p.write? d = some cs) : p.read? (String.ofList cs) = some d := by
  rw [read?_written hp.apart hcs]
  exact DateParts.date?_ofDate hp.year hp.yearOfCentury hp.month hp.day

/-- A shortened pattern reads back the dates near the present that it wrote, and no others. -/
theorem IsShortened.read?_eq_some_iff (hp : p.IsShortened) {cs : List Char}
    (hcs : p.write? d = some cs) :
    p.read? (String.ofList cs) = some d ↔ 1970 ≤ d.year ∧ d.year ≤ 2069 := by
  rw [read?_written hp.apart hcs]
  exact DateParts.date?_ofDate_short_iff hp.year hp.yearOfCentury hp.month hp.day

end DatePattern

namespace DateFormat

open DatePattern

variable {format : String} {p : DatePattern} {d : Date} {cs : List Char}

/-- A format reads back every date that it writes. -/
def ReadsBack (format : String) : Prop := ∀ d, read? format (write format d) = some d

theorem format?_of_write? (hp : ofText? format = some p) (hcs : p.write? d = some cs) :
    format? format d = some (String.ofList cs) := by
  rw [format?, hp, Option.bind_eq_bind, Option.bind_some, hcs]
  rfl

theorem write_of_write? (hp : ofText? format = some p) (hcs : p.write? d = some cs) :
    write format d = String.ofList cs := by
  rw [write, format?_of_write? hp hcs]
  rfl

/-- What is read strictly is read. -/
theorem parse?_of_read? {format s : String} {d : Date} (h : read? format s = some d) :
    parse? format s = some d := by
  obtain ⟨e, he, hsome⟩ := Option.bind_eq_some_iff.1 h
  split at hsome
  · obtain rfl := Option.some.inj hsome
    exact he
  · cases hsome

/-- What a format wrote itself is read strictly as soon as it is read at all. -/
theorem read?_write_iff (hp : ofText? format = some p) (hcs : p.write? d = some cs) :
    read? format (write format d) = some d ↔ parse? format (write format d) = some d := by
  constructor
  · exact parse?_of_read?
  · intro h
    rw [read?, Option.bind_eq_bind, Option.bind_eq_some_iff]
    exact ⟨d, h, if_pos (by rw [format?_of_write? hp hcs, write_of_write? hp hcs])⟩

theorem parse?_of_ofText? (hp : ofText? format = some p) (s : String) :
    parse? format s = p.read? s := by
  rw [parse?, hp]
  rfl

theorem readsBack_of_isSeparated (hp : ofText? format = some p) (h : p.IsSeparated) :
    ReadsBack format := by
  intro d
  obtain ⟨cs, hcs⟩ := exists_write?_of_isApart h.apart d
  rw [read?_write_iff hp hcs, parse?_of_ofText? hp, write_of_write? hp hcs]
  exact h.read?_eq_some hcs

/-- With two digits of the year a format reads back the dates between 1970 and 2069. -/
theorem read?_write_iff_of_isShortened (hp : ofText? format = some p) (h : p.IsShortened) :
    read? format (write format d) = some d ↔ 1970 ≤ d.year ∧ d.year ≤ 2069 := by
  obtain ⟨cs, hcs⟩ := exists_write?_of_isApart h.apart d
  rw [read?_write_iff hp hcs, parse?_of_ofText? hp, write_of_write? hp hcs]
  exact h.read?_eq_some_iff hcs

/-! ## The standard format -/

theorem ofText?_standard : ofText? standard =
    some [zeroFilled .year, .literal '-', zeroFilled .month, .literal '-', zeroFilled .day] := by
  decide +kernel

theorem readsBack_standard : ReadsBack standard :=
  readsBack_of_isSeparated ofText?_standard ⟨⟨rfl, rfl, rfl⟩, rfl, rfl⟩

theorem yearNumber_zeros (y : Int) : yearNumber .zeros y = Date.yearText y := rfl

/-- The standard format writes a date as it is shown everywhere else. -/
theorem write_standard (d : Date) : write standard d = d.isoText := by
  have hmonth : twoPlaces .zeros d.month = Decimal.padded 2 d.month :=
    twoPlaces_eq_filledText (by have := d.month_bounds; omega) .zeros
  have hday : twoPlaces .zeros d.day = Decimal.padded 2 d.day := by
    refine twoPlaces_eq_filledText ?_ .zeros
    have := d.day_bounds
    have := DateParts.daysInMonth_le d.year d.month
    omega
  have hcs : DatePattern.write? [zeroFilled .year, .literal '-', zeroFilled .month, .literal '-',
      zeroFilled .day] d = some (Date.yearText d.year ++ ('-' :: (Decimal.padded 2 d.month ++
        ('-' :: (Decimal.padded 2 d.day ++ []))))) := by
    rw [← hmonth, ← hday, ← yearNumber_zeros]
    rfl
  rw [write_of_write? ofText?_standard hcs, List.append_nil, Date.isoText]
  simp only [List.append_assoc, List.cons_append]

theorem readIso?_isoText (d : Date) : readIso? d.isoText = some d :=
  write_standard d ▸ readsBack_standard d

end DateFormat
end WorkItems
