import WorkItems.Proofs.Calendar.Reading
/-!
# Alternate encodings of a date

A date that does not have its own format is looked for in nine other encodings: eight formats and
the internet timestamp. Numbers are read leniently, so a format does not show in its text which
texts it reads. Seven of the encodings start with the year, the month and the day with hyphens
between them, and read the same date wherever two of them read one. The other two have slashes, one
with the year in front and one with the month in front, and these two meet in the texts of three
short numbers, such as `1/2/3`: both read them, and mostly as different dates. There the order of
the encodings decides.
-/

namespace WorkItems

namespace DatePattern

open DateParts

variable {cs rest ds : List Char} {n : Nat} {part : NumberPart} {d e : Date}

/-! ## Short numbers -/

/-- Parts of a date have two to four digits. -/
theorem widthOf_bounds (hpart : part ∈ [.year, .month, .day]) :
    2 ≤ widthOf part ∧ widthOf part ≤ 4 := by
  simp only [List.mem_cons, List.not_mem_nil, or_false] at hpart
  rcases hpart with rfl | rfl | rfl <;> decide

/-- Digits that show a part of a date are read as that part. -/
theorem takePart_digits (hpart : part ∈ [.year, .month, .day]) (h : Shows ds (widthOf part) n)
    (hrest : EndsNumber rest) : takePart part (ds ++ rest) = some ((n : Int), rest) := by
  have hwidth : widthOf part ≤ 4 := (widthOf_bounds hpart).2
  have hbound : n < bitBound 63 := by
    calc n = Decimal.value ds := h.value.symm
      _ < 10 ^ ds.length := Decimal.value_lt_pow h.isDigit
      _ ≤ 10 ^ 4 := Nat.pow_le_pow_right (by omega) (Nat.le_trans h.length_le hwidth)
      _ < bitBound 63 := by rw [bitBound]; omega
  have htake : takeNumber (widthOf part) (ds ++ rest) = some (n, rest) := by
    have hvalue : Decimal.value ds < bitBound 63 := h.value.symm ▸ hbound
    rw [takeNumber_append h.isDigit h.ne_nil h.length_le hvalue hrest, h.value]
  simp only [List.mem_cons, List.not_mem_nil, or_false] at hpart
  rcases hpart with rfl | rfl | rfl
  · exact takeSigned_digits h hbound hrest
  · simp only [takePart, htake, Option.map_some]
  · simp only [takePart, htake, Option.map_some]

/-- What was taken as a number was written with digits. -/
theorem takeNumber_eq_some {width : Nat} (h : takeNumber width cs = some (n, rest)) :
    ∃ ds, cs = ds ++ rest ∧ Shows ds width n := by
  let ds := (cs.take width).takeWhile Char.isDigit
  have hprefix : ds <+: cs := (List.takeWhile_prefix _).trans (List.take_prefix _ _)
  have hdigits : ∀ c ∈ ds, Decimal.isDigit c = true := List.all_eq_true.1 List.all_takeWhile
  have hlength : ds.length ≤ width :=
    Nat.le_trans (List.takeWhile_prefix _).length_le (List.length_take_le _ _)
  simp only [takeNumber] at h
  split at h
  · cases h
  · rename_i hfits
    simp only [Bool.or_eq_true, List.isEmpty_iff, not_or] at hfits
    cases h
    exact ⟨ds, (List.prefix_iff_eq_append.1 hprefix).symm, hdigits, hfits.1, hlength, rfl⟩

/-- Blanks and up to two digits show a number. -/
def ShowsShort (cs : List Char) (n : Nat) : Prop := Shows (cs.dropWhile Text.isBlank) 2 n

theorem ShowsShort.takePart (h : ShowsShort ds n) (hpart : part ∈ [.year, .month, .day])
    (hrest : EndsNumber rest) :
    takePart part ((ds ++ rest).dropWhile Text.isBlank) = some ((n : Int), rest) := by
  have hwidth : 2 ≤ widthOf part := (widthOf_bounds hpart).1
  have hdrop : (ds ++ rest).dropWhile Text.isBlank = ds.dropWhile Text.isBlank ++ rest := by
    rw [List.dropWhile_append, if_neg]
    exact fun hempty => h.ne_nil (List.isEmpty_iff.1 hempty)
  rw [hdrop]
  exact takePart_digits hpart ⟨h.isDigit, h.ne_nil, Nat.le_trans h.length_le hwidth, h.value⟩ hrest

/-- A month or a day is read from a short number. -/
theorem exists_showsShort (hpart : part = .month ∨ part = .day) {v : Int}
    (h : takePart part (cs.dropWhile Text.isBlank) = some (v, rest)) :
    ∃ ds, ∃ n : Nat, cs = ds ++ rest ∧ v = n ∧ ShowsShort ds n := by
  have hmap : (takeNumber 2 (cs.dropWhile Text.isBlank)).map (fun x => ((x.1 : Int), x.2)) =
      some (v, rest) := by
    rcases hpart with rfl | rfl <;> exact h
  obtain ⟨⟨n, behind⟩, htake, heq⟩ := Option.map_eq_some_iff.1 hmap
  cases heq
  obtain ⟨ds, hds, hshows⟩ := takeNumber_eq_some htake
  refine ⟨cs.takeWhile Text.isBlank ++ ds, n, ?_, rfl, ?_⟩
  · rw [List.append_assoc, ← hds, List.takeWhile_append_dropWhile]
  · have hblank : ∀ c ∈ cs.takeWhile Text.isBlank, Text.isBlank c = true :=
      List.all_eq_true.1 List.all_takeWhile
    have hdrop : (ds ++ []).dropWhile Text.isBlank = ds ++ [] :=
      dropWhile_isBlank_digits hshows.isDigit hshows.ne_nil
    rw [List.append_nil] at hdrop
    rw [ShowsShort, List.dropWhile_append_of_pos hblank, hdrop]
    exact hshows

theorem endsNumber_nil : EndsNumber [] := fun _ h => nomatch h

theorem endsNumber_cons {c : Char} (h : Decimal.isDigit c = false) (cs : List Char) :
    EndsNumber (c :: cs) := by
  rintro _ ⟨⟩
  exact h

/-- Three short numbers with slashes between them. -/
def IsSlashed (cs : List Char) (a b c : Nat) : Prop :=
  ∃ first second third, cs = first ++ '/' :: (second ++ '/' :: third) ∧
    ShowsShort first a ∧ ShowsShort second b ∧ ShowsShort third c

variable {a b c : NumberPart} {x y z : Nat}

/-- Short numbers are read as the parts of a date in any order. -/
theorem IsSlashed.startsWith (horder : [a, b, c].Perm [.year, .month, .day])
    (h : IsSlashed cs x y z) (hx : number d a = x) (hy : number d b = y) (hz : number d c = z) :
    StartsWith '/' a b c d cs [] := by
  have hpart : ∀ {part}, part ∈ [a, b, c] → part ∈ [.year, .month, .day] := horder.mem_iff.1
  obtain ⟨first, second, third, rfl, hfirst, hsecond, hthird⟩ := h
  refine ⟨second ++ '/' :: third, third, ?_, ?_, ?_⟩
  · rw [hx]
    exact hfirst.takePart (hpart (by simp)) (endsNumber_cons rfl _)
  · rw [hy]
    exact hsecond.takePart (hpart (by simp)) (endsNumber_cons rfl _)
  · rw [hz]
    exact List.append_nil third ▸ hthird.takePart (hpart (by simp)) endsNumber_nil

/-- A short number that is also read as another part of a date is the same number there. -/
theorem showsShort_of_both {part' : NumberPart} (hpart : part = .month ∨ part = .day)
    (hpart' : part' ∈ [.year, .month, .day]) {v v' : Int} {rest' : List Char}
    (h : takePart part (cs.dropWhile Text.isBlank) = some (v, rest)) (hrest : EndsNumber rest)
    (h' : takePart part' (cs.dropWhile Text.isBlank) = some (v', rest')) :
    v' = v ∧ rest' = rest ∧ ∃ ds, ∃ n : Nat, cs = ds ++ rest ∧ v = n ∧ ShowsShort ds n := by
  obtain ⟨ds, n, rfl, rfl, hds⟩ := exists_showsShort hpart h
  have heq := (hds.takePart hpart' hrest).symm.trans h'
  cases heq
  exact ⟨rfl, rfl, ds, n, rfl, rfl, hds⟩

/--
A text that starts with the year does not start with the month, unless both have the same sign.
-/
theorem sep_eq_of_yearFirst {sep sep' : Char} {rest' : List Char}
    (hsep : Decimal.isDigit sep = false) (h : StartsWith sep .month .day .year e cs rest)
    (h' : StartsWith sep' .year .month .day d cs rest') : sep' = sep := by
  obtain ⟨first, second, htake, -⟩ := h
  obtain ⟨first', second', htake', -⟩ := h'
  obtain ⟨-, hrest, -⟩ :=
    showsShort_of_both (.inl rfl) (by simp) htake (endsNumber_cons hsep _) htake'
  exact (List.cons.inj hrest).1

/-- What is read with the year first and with the month first is three short numbers. -/
theorem isSlashed_of_both (h : StartsWith '/' .month .day .year e cs [])
    (h' : StartsWith '/' .year .month .day d cs []) :
    IsSlashed cs e.month e.day d.day ∧ d.year = e.month ∧ d.month = e.day ∧ e.year = d.day := by
  have hslash : ∀ behind, EndsNumber ('/' :: behind) := endsNumber_cons rfl
  obtain ⟨first, second, hmonth, hday, hyear⟩ := h
  obtain ⟨first', second', hyear', hmonth', hday'⟩ := h'
  obtain ⟨hyearMonth, hrest₁, ds₁, n₁, rfl, hn₁, hds₁⟩ :=
    showsShort_of_both (.inl rfl) (by simp) hmonth (hslash _) hyear'
  cases hrest₁
  obtain ⟨hmonthDay, hrest₂, ds₂, n₂, rfl, hn₂, hds₂⟩ :=
    showsShort_of_both (.inr rfl) (by simp) hday (hslash _) hmonth'
  cases hrest₂
  obtain ⟨hdayYear, -, ds₃, n₃, rfl, hn₃, hds₃⟩ :=
    showsShort_of_both (.inr rfl) (by simp) hday' endsNumber_nil hyear
  obtain rfl : e.month = n₁ := Int.natCast_inj.1 hn₁
  obtain rfl : e.day = n₂ := Int.natCast_inj.1 hn₂
  obtain rfl : d.day = n₃ := Int.natCast_inj.1 hn₃
  refine ⟨⟨ds₁, ds₂, ds₃, ?_, hds₁, hds₂, hds₃⟩, hyearMonth, Int.natCast_inj.1 hmonthDay, hdayYear⟩
  rw [List.append_nil]

/-! ## Internet timestamps -/

theorem takeFixed_eq_some {width : Nat} (hwidth : width ≠ 0)
    (h : takeFixed width cs = some (n, rest)) : ∃ ds, cs = ds ++ rest ∧ Shows ds width n := by
  rw [takeFixed] at h
  split at h
  · rename_i hfits
    cases h
    obtain ⟨hlength, hdigits⟩ := Bool.and_eq_true_iff.1 hfits
    have hlength : (cs.take width).length = width := eq_of_beq hlength
    have hne : cs.take width ≠ [] := by
      intro hnil
      rw [hnil] at hlength
      exact hwidth hlength.symm
    exact ⟨_, (List.take_append_drop width cs).symm, List.all_eq_true.1 hdigits, hne,
      Nat.le_of_eq hlength, rfl⟩
  · cases h

theorem behindChar?_eq_some {c : Char} (h : behindChar? c cs = some rest) : cs = c :: rest := by
  cases cs with
  | nil => cases h
  | cons e behind =>
      rw [behindChar?] at h
      split at h
      · rename_i he
        cases h
        rw [he]
      · cases h

/-- What an internet timestamp starts with is read by the lenient patterns too. -/
theorem takePart_of_takeFixed (hpart : part ∈ [.year, .month, .day])
    (h : takeFixed (widthOf part) cs = some (n, rest)) (hrest : EndsNumber rest) :
    takePart part (cs.dropWhile Text.isBlank) = some ((n : Int), rest) := by
  have hwidth : widthOf part ≠ 0 := by
    have htwo := (widthOf_bounds hpart).1
    omega
  obtain ⟨ds, rfl, hds⟩ := takeFixed_eq_some hwidth h
  rw [dropWhile_isBlank_digits hds.isDigit hds.ne_nil]
  exact takePart_digits hpart hds hrest

theorem isDigit_of_isTimeMark {c : Char} (h : isTimeMark c = true) : Decimal.isDigit c = false := by
  simp only [isTimeMark, Bool.or_eq_true, beq_iff_eq] at h
  rcases h with (rfl | rfl) | rfl <;> rfl

/-- What an internet timestamp starts with, and that nothing behind it changes the date. -/
theorem timestamp?_eq_some {s : String} (h : timestamp? s = some d) :
    ∃ (year month day : Nat) (first second rest : List Char),
      takeFixed 4 s.toList = some (year, '-' :: first) ∧
      takeFixed 2 first = some (month, '-' :: second) ∧ takeFixed 2 second = some (day, rest) ∧
      EndsNumber rest ∧ Date.ofYmd? year month day = some d := by
  obtain ⟨⟨year, cs₁⟩, hyear, h₁⟩ := Option.bind_eq_some_iff.1 h
  obtain ⟨first, hfirst, h₂⟩ := Option.bind_eq_some_iff.1 h₁
  obtain ⟨⟨month, cs₂⟩, hmonth, h₃⟩ := Option.bind_eq_some_iff.1 h₂
  obtain ⟨second, hsecond, h₄⟩ := Option.bind_eq_some_iff.1 h₃
  obtain ⟨⟨day, rest⟩, hday, h₅⟩ := Option.bind_eq_some_iff.1 h₄
  obtain ⟨mark, hmark, h⟩ := Option.bind_eq_some_iff.1 h₅
  dsimp only at h
  obtain rfl := behindChar?_eq_some hfirst
  obtain rfl := behindChar?_eq_some hsecond
  split at h
  · cases h
  rename_i hmarked
  refine ⟨year, month, day, first, second, rest, hyear, hmonth, hday, ?_, ?_⟩
  · intro c hc
    obtain rfl := Option.some.inj (Eq.trans (Eq.symm hmark) hc)
    exact isDigit_of_isTimeMark (by simpa using hmarked)
  · -- Hours, minutes and seconds are read, then the fraction if there is one, and the offset.
    obtain ⟨_, -, h⟩ := Option.bind_eq_some_iff.1 h
    obtain ⟨_, -, h⟩ := Option.bind_eq_some_iff.1 h
    obtain ⟨_, -, h⟩ := Option.bind_eq_some_iff.1 h
    obtain ⟨_, -, h⟩ := Option.bind_eq_some_iff.1 h
    obtain ⟨_, -, h⟩ := Option.bind_eq_some_iff.1 h
    split at h
    · cases h
    split at h
    all_goals
      obtain ⟨_, -, h⟩ := Option.bind_eq_some_iff.1 h
      obtain ⟨_, -, h⟩ := Option.bind_eq_some_iff.1 h
      split at h
      · cases h
      · exact h

theorem startsWith_of_timestamp? {s : String} (h : timestamp? s = some d) :
    ∃ rest, StartsWith '-' .year .month .day d s.toList rest := by
  obtain ⟨year, month, day, first, second, rest, hyear, hmonth, hday, hend, hdate⟩ :=
    timestamp?_eq_some h
  obtain ⟨hy, rfl, rfl⟩ := ofYmd?_eq_some hdate
  have hhyphen : ∀ behind, EndsNumber ('-' :: behind) := endsNumber_cons rfl
  refine ⟨rest, first, second, ?_, ?_, ?_⟩
  · have hnumber : number d .year = (year : Int) := hy
    rw [hnumber]
    exact takePart_of_takeFixed (by simp) hyear (hhyphen _)
  · exact takePart_of_takeFixed (by simp) hmonth (hhyphen _)
  · exact takePart_of_takeFixed (by simp) hday hend

end DatePattern

namespace DateFormat

open DatePattern

/-! ## The nine encodings -/

/-- A way to write a date by mistake: in one of the formats, or as an internet timestamp. -/
inductive Encoding where
  | format (f : String)
  | timestamp
deriving DecidableEq, Repr

/-- The date that a text shows in an encoding. -/
def Encoding.read? : Encoding → String → Option Date
  | .format f => parse? f
  | .timestamp => timestamp?

/-- The encodings in which a date is looked for, the first one first. -/
def encodings : List Encoding := alternates.map .format ++ [.timestamp]

def yearFirst : Encoding := .format "%Y/%m/%d"

def monthFirst : Encoding := .format "%m/%d/%Y"

variable {s : String} {d e : Date}

theorem readAlternate?_eq (s : String) :
    readAlternate? s = encodings.findSome? (·.read? (Text.strip s)) := by
  have hformats : (fun f => parse? f (Text.strip s)) =
      (fun a : Encoding => a.read? (Text.strip s)) ∘ .format := rfl
  rw [encodings, List.findSome?_append, List.findSome?_map, ← hformats, List.findSome?_singleton]
  rfl

theorem read?_yearFirst :
    yearFirst.read? s = some d ↔ StartsWith '/' .year .month .day d s.toList [] := by
  have hp : ofText? "%Y/%m/%d" = some (apart '/' .year .month .day) := by decide +kernel
  rw [yearFirst, Encoding.read?, parse?_of_ofText? hp]
  exact read?_apart (by decide)

theorem read?_monthFirst :
    monthFirst.read? s = some d ↔ StartsWith '/' .month .day .year d s.toList [] := by
  have hp : ofText? "%m/%d/%Y" = some (apart '/' .month .day .year) := by decide +kernel
  rw [monthFirst, Encoding.read?, parse?_of_ofText? hp]
  exact read?_apart (by decide)

/-- The formats that start with year, month and day, and have hyphens between them. -/
theorem ofText?_hyphened {f : String} (hmem : f ∈ alternates) (hyear : f ≠ "%Y/%m/%d")
    (hmonth : f ≠ "%m/%d/%Y") : ∃ more, ofText? f = some (apart '-' .year .month .day ++ more) := by
  have hstarts : ∀ g ∈ alternates, g = "%Y/%m/%d" ∨ g = "%m/%d/%Y" ∨
      ((ofText? g).map (·.take 5) = some (apart '-' .year .month .day)) := by decide +kernel
  obtain ⟨p, hp, htake⟩ := Option.map_eq_some_iff.1
    (((hstarts f hmem).resolve_left hyear).resolve_left hmonth)
  exact ⟨p.drop 5, by rw [hp, ← htake, List.take_append_drop]⟩

/-- The encodings without slashes start with year, month and day, and hyphens between them. -/
theorem startsWith_of_encoding {a : Encoding} (ha : a ∈ encodings) (hyear : a ≠ yearFirst)
    (hmonth : a ≠ monthFirst) (h : a.read? s = some d) :
    ∃ rest, StartsWith '-' .year .month .day d s.toList rest := by
  rcases List.mem_append.1 ha with hmem | hmem
  · obtain ⟨f, hf, rfl⟩ := List.mem_map.1 hmem
    obtain ⟨more, hp⟩ := ofText?_hyphened hf (fun heq => hyear (congrArg _ heq))
      fun heq => hmonth (congrArg _ heq)
    rw [Encoding.read?, parse?_of_ofText? hp] at h
    exact startsWith_of_read? (by decide) h
  · obtain rfl := List.mem_singleton.1 hmem
    exact startsWith_of_timestamp? h

/-- What an encoding without slashes reads, one with slashes does not. -/
theorem not_slashed {a : Encoding} (ha : a ∈ encodings) (hyear : a ≠ yearFirst)
    (hmonth : a ≠ monthFirst) (h : a.read? s = some d) :
    yearFirst.read? s = none ∧ monthFirst.read? s = none := by
  obtain ⟨rest, hstarts⟩ := startsWith_of_encoding ha hyear hmonth h
  have hne : '-' ≠ '/' := by decide
  refine ⟨Option.eq_none_iff_forall_ne_some.2 fun e he => ?_,
    Option.eq_none_iff_forall_ne_some.2 fun e he => ?_⟩
  · exact hne (hstarts.sep_eq (read?_yearFirst.1 he))
  · exact hne (sep_eq_of_yearFirst rfl (read?_monthFirst.1 he) hstarts)

/-- Two encodings that read a text read the same date, unless they are the two with slashes. -/
theorem eq_of_encodings {a b : Encoding} (ha : a ∈ encodings) (hb : b ∈ encodings)
    (hd : a.read? s = some d) (he : b.read? s = some e) :
    d = e ∨ (a = yearFirst ∧ b = monthFirst) ∨ (a = monthFirst ∧ b = yearFirst) := by
  by_cases hab : a = b
  · exact .inl (Option.some.inj (hd.symm.trans (hab ▸ he)))
  by_cases hslashed : a = yearFirst ∨ a = monthFirst
  · by_cases hslashed' : b = yearFirst ∨ b = monthFirst
    · rcases hslashed with rfl | rfl <;> rcases hslashed' with rfl | rfl
      · exact absurd rfl hab
      · exact .inr (.inl ⟨rfl, rfl⟩)
      · exact .inr (.inr ⟨rfl, rfl⟩)
      · exact absurd rfl hab
    · obtain ⟨hyear, hmonth⟩ := not_or.1 hslashed'
      obtain ⟨hnone, hnone'⟩ := not_slashed hb hyear hmonth he
      rcases hslashed with rfl | rfl
      · exact absurd hd (by simp [hnone])
      · exact absurd hd (by simp [hnone'])
  · obtain ⟨hyear, hmonth⟩ := not_or.1 hslashed
    obtain ⟨hnone, hnone'⟩ := not_slashed ha hyear hmonth hd
    obtain ⟨_, hstarts⟩ := startsWith_of_encoding ha hyear hmonth hd
    have hyear' : b ≠ yearFirst := by
      rintro rfl
      exact absurd he (by simp [hnone])
    have hmonth' : b ≠ monthFirst := by
      rintro rfl
      exact absurd he (by simp [hnone'])
    obtain ⟨_, hstarts'⟩ := startsWith_of_encoding hb hyear' hmonth' he
    exact .inl (hstarts.date_eq (by decide) hstarts')

/-- The two encodings with slashes meet in three short numbers that are dates in both orders. -/
theorem both_slashed_iff : yearFirst.read? s = some d ∧ monthFirst.read? s = some e ↔
    ∃ a b c : Nat, IsSlashed s.toList a b c ∧ Date.ofYmd? a b c = some d ∧
      Date.ofYmd? c a b = some e := by
  rw [read?_yearFirst, read?_monthFirst]
  constructor
  · rintro ⟨hyear, hmonth⟩
    obtain ⟨hslashed, hyearMonth, hmonthDay, hdayYear⟩ := isSlashed_of_both hmonth hyear
    refine ⟨e.month, e.day, d.day, hslashed, ?_, ?_⟩
    · rw [← hyearMonth, ← hmonthDay]
      exact DateParts.ofYmd?_self d
    · rw [← hdayYear]
      exact DateParts.ofYmd?_self e
  · rintro ⟨a, b, c, hslashed, hd, he⟩
    obtain ⟨hy, hm, hn⟩ := DateParts.ofYmd?_eq_some hd
    obtain ⟨hy', hm', hn'⟩ := DateParts.ofYmd?_eq_some he
    exact ⟨hslashed.startsWith (by decide) hy (congrArg _ hm) (congrArg _ hn),
      hslashed.startsWith (by decide) (congrArg _ hm') (congrArg _ hn') hy'⟩

/-- Where the two encodings with slashes meet they differ, unless the three numbers are the same. -/
theorem eq_iff_of_both_slashed (hd : yearFirst.read? s = some d)
    (he : monthFirst.read? s = some e) :
    d = e ↔ d.year = d.month ∧ d.month = d.day := by
  obtain ⟨-, hyear, hmonth, hday⟩ :=
    isSlashed_of_both (read?_monthFirst.1 he) (read?_yearFirst.1 hd)
  constructor
  · rintro rfl
    exact ⟨hyear, hmonth⟩
  · rintro ⟨hyearMonth, hmonthDay⟩
    refine DateParts.eq_of_number ?_ ?_ ?_
    · calc d.year = d.month := hyearMonth
        _ = d.day := congrArg _ hmonthDay
        _ = e.year := hday.symm
    · exact hyearMonth.symm.trans hyear
    · exact congrArg _ (hmonthDay.symm.trans hmonth)

/-- With the year in front, a date with slashes is read first. -/
theorem readAlternate?_of_yearFirst (h : yearFirst.read? (Text.strip s) = some d) :
    readAlternate? s = some d := by
  have hstandard : (Encoding.format standard).read? (Text.strip s) = none := by
    refine Option.eq_none_iff_forall_ne_some.2 fun e he => ?_
    have hnone := (not_slashed (by decide) (by decide) (by decide) he).1
    exact absurd h (by simp [hnone])
  have hencodings : encodings = .format standard :: yearFirst :: encodings.drop 2 := rfl
  rw [readAlternate?_eq, hencodings, List.findSome?_cons, hstandard, List.findSome?_cons, h]

/-- In another order the encodings give the same date, or both with slashes read one. -/
theorem findSome?_of_perm {order : List Encoding} (horder : order.Perm encodings) :
    order.findSome? (·.read? (Text.strip s)) = readAlternate? s ∨
      ∃ d e, yearFirst.read? (Text.strip s) = some d ∧ monthFirst.read? (Text.strip s) = some e ∧
        d ≠ e ∧ order.findSome? (·.read? (Text.strip s)) = some e := by
  cases hfound : order.findSome? (·.read? (Text.strip s)) with
  | none =>
      have hnone := List.findSome?_eq_none_iff.1 hfound
      refine .inl (Eq.symm ?_)
      rw [readAlternate?_eq]
      exact List.findSome?_eq_none_iff.2 fun a ha => hnone a (horder.mem_iff.2 ha)
  | some e =>
      obtain ⟨a, ha, he⟩ := List.exists_of_findSome?_eq_some hfound
      have ha := horder.mem_iff.1 ha
      cases hfirst : readAlternate? s with
      | none =>
          rw [readAlternate?_eq] at hfirst
          exact absurd he (by simp [List.findSome?_eq_none_iff.1 hfirst a ha])
      | some d =>
          have hfirst' := hfirst
          rw [readAlternate?_eq] at hfirst'
          obtain ⟨b, hb, hd⟩ := List.exists_of_findSome?_eq_some hfirst'
          rcases eq_of_encodings ha hb he hd with rfl | ⟨rfl, -⟩ | ⟨rfl, rfl⟩
          · exact .inl rfl
          · exact .inl ((readAlternate?_of_yearFirst he).symm.trans hfirst)
          · by_cases hde : d = e
            · exact .inl (congrArg some hde.symm)
            · exact .inr ⟨d, e, hd, he, hde, rfl⟩

/--
A date is read by the first encoding that reads one. Any two encodings that read a text read the
same date, but for the two with slashes: both of them read exactly the texts of three short numbers
that are dates with the year first and with the month first, and these dates differ unless the
numbers are the same. There the year comes first, and only there does the order of the encodings
matter.
-/
theorem alternates_agree_unless_slashed (s : String) :
    readAlternate? s = encodings.findSome? (·.read? (Text.strip s)) ∧
    (∀ a ∈ encodings, ∀ b ∈ encodings, ∀ d e,
      a.read? (Text.strip s) = some d → b.read? (Text.strip s) = some e →
        d = e ∨ (a = yearFirst ∧ b = monthFirst) ∨ (a = monthFirst ∧ b = yearFirst)) ∧
    (∀ d e, yearFirst.read? (Text.strip s) = some d ∧ monthFirst.read? (Text.strip s) = some e ↔
      ∃ a b c : Nat, IsSlashed (Text.strip s).toList a b c ∧ Date.ofYmd? a b c = some d ∧
        Date.ofYmd? c a b = some e) ∧
    (∀ d e, yearFirst.read? (Text.strip s) = some d → monthFirst.read? (Text.strip s) = some e →
      (d = e ↔ d.year = d.month ∧ d.month = d.day)) ∧
    (∀ d, yearFirst.read? (Text.strip s) = some d → readAlternate? s = some d) ∧
    ∀ order : List Encoding, order.Perm encodings →
      order.findSome? (·.read? (Text.strip s)) = readAlternate? s ∨
        ∃ d e, yearFirst.read? (Text.strip s) = some d ∧
          monthFirst.read? (Text.strip s) = some e ∧ d ≠ e ∧
          order.findSome? (·.read? (Text.strip s)) = some e := by
  refine ⟨readAlternate?_eq s, ?_, ?_, ?_, ?_, ?_⟩
  · intro a ha b hb d e hd he
    exact eq_of_encodings ha hb hd he
  · intro d e
    exact both_slashed_iff
  · intro d e hd he
    exact eq_iff_of_both_slashed hd he
  · intro d hd
    exact readAlternate?_of_yearFirst hd
  · intro order horder
    exact findSome?_of_perm horder

/--
The text `1/2/3` is the third of February in the year 1, and the second of January in the year 3.
-/
theorem alternates_disagree_slashed :
    ¬ ∀ (s : String) (a b : Encoding) (d e : Date), a ∈ encodings → b ∈ encodings →
      a.read? (Text.strip s) = some d → b.read? (Text.strip s) = some e → d = e := by
  intro hagree
  have hyear : yearFirst.read? (Text.strip "1/2/3") = Date.ofYmd? 1 2 3 := by decide +kernel
  have hmonth : monthFirst.read? (Text.strip "1/2/3") = Date.ofYmd? 3 1 2 := by decide +kernel
  have heq := hagree "1/2/3" yearFirst monthFirst _ _ (by decide) (by decide) hyear hmonth
  exact absurd (congrArg Date.year heq) (by decide)

end DateFormat
end WorkItems
