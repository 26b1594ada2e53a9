import WorkItems.Proofs.Calendar.ReadBack
/-!
# Dates are not blank

A pattern without a number in it can write blanks, or nothing at all. But then it cannot be read
back either: names of months and days, halves of the day and offsets never tell a year. So a format
that reads back what it wrote has a number in it, and what it writes is not blank.
-/

namespace WorkItems

namespace DateParts

/-- What is known of the year. -/
def yearParts (p : DateParts) :
    Option Int × Option Nat × Option Nat × Option Int × Option Nat :=
  (p.year, p.century, p.yearOfCentury, p.isoYear, p.isoYearOfCentury)

/-- Without anything known of the year there is no date. -/
theorem date?_eq_none {p : DateParts} (h : p.yearParts = empty.yearParts) : p.date? = none := by
  obtain ⟨hyear, h⟩ := Prod.mk.inj h
  obtain ⟨hcentury, h⟩ := Prod.mk.inj h
  obtain ⟨hyearOfCentury, h⟩ := Prod.mk.inj h
  obtain ⟨hisoYear, hisoYearOfCentury⟩ := Prod.mk.inj h
  have hresolve : resolveYear p.year p.century p.yearOfCentury = some none := by
    rw [hyear, hcentury, hyearOfCentury]
    rfl
  have hresolveIso : resolveYear p.isoYear none p.isoYearOfCentury = some none := by
    rw [hisoYear, hisoYearOfCentury]
    rfl
  have hcandidate : p.candidate? none none = none := rfl
  simp only [date?, hresolve, hresolveIso, hcandidate, Option.bind_eq_bind, Option.bind_some,
    Option.bind_none]

end DateParts

namespace DatePattern

open DateParts

variable {p p' : DateParts} {cs rest : List Char}

/-! ## Items that tell nothing of the year -/

/-- Whether an item shows a number of a date. -/
def tellsNumber : PatternItem → Bool
  | .number _ _ | .text .timestampText => true
  | _ => false

/-- What an item without a number may have told. -/
inductive Tells (p : DateParts) : DateParts → Prop
  | nothing : Tells p p
  | month {m : Nat} {p' : DateParts} : p.setMonth m = some p' → Tells p p'
  | weekday {w : Weekday} {p' : DateParts} : p.setWeekday w = some p' → Tells p p'
  | afternoon {b : Bool} {p' : DateParts} : p.setAfternoon b = some p' → Tells p p'
  | nanosecond {n : Nat} {p' : DateParts} : p.setNanosecond n = some p' → Tells p p'
  | offset {seconds : Int} {p' : DateParts} : p.setOffset seconds = some p' → Tells p p'

/--
Taking something from the front of a text and setting a part to it is setting it to something.
-/
theorem exists_set_of_bind {α : Type} {taken : Option (α × List Char)} (set : α → Option DateParts)
    (h : (taken.bind fun x => (set x.1).bind fun q => some (q, x.2)) = some (p', rest)) :
    ∃ a, set a = some p' := by
  obtain ⟨x, -, h⟩ := Option.bind_eq_some_iff.1 h
  obtain ⟨q, hq, h⟩ := Option.bind_eq_some_iff.1 h
  cases h
  exact ⟨x.1, hq⟩

theorem tells_readMonth {taken : Option (Nat × List Char)}
    (h : readMonth p taken = some (p', rest)) : Tells p p' := by
  obtain ⟨_, hset⟩ := exists_set_of_bind (fun i => p.setMonth (i + 1)) h
  exact .month hset

theorem tells_readWeekday {taken : Option (Nat × List Char)}
    (h : readWeekday p taken = some (p', rest)) : Tells p p' := by
  obtain ⟨_, hset⟩ := exists_set_of_bind (fun i => p.setWeekday (.ofSinceMonday i)) h
  exact .weekday hset

theorem tells_readNanosecond {taken : Option (Nat × List Char)}
    (h : readNanosecond p taken = some (p', rest)) : Tells p p' := by
  obtain ⟨_, hset⟩ := exists_set_of_bind p.setNanosecond h
  exact .nanosecond hset

theorem tells_readOffset {style : OffsetStyle} (h : readOffset style p cs = some (p', rest)) :
    Tells p p' := by
  obtain ⟨_, hset⟩ := exists_set_of_bind p.setOffset h
  exact .offset hset

theorem tells_readHalf (h : readHalf p cs = some (p', rest)) : Tells p p' := by
  have hset : ∀ (b : Bool) (behind : List Char),
      (p.setAfternoon b).map (·, behind) = some (p', rest) → Tells p p' := by
    intro b behind hb
    obtain ⟨q, hq, heq⟩ := Option.map_eq_some_iff.1 hb
    cases heq
    exact .afternoon hq
  rw [readHalf] at h
  split at h
  · exact hset _ _ h
  · exact hset _ _ h
  · cases h

theorem tells_behindPoint {take : List Char → Option (Nat × List Char)}
    (h : behindPoint take p cs = some (p', rest)) : Tells p p' := by
  rw [behindPoint.eq_def] at h
  split at h
  · exact tells_readNanosecond h
  · cases h
    exact .nothing

/-- What an item without a number can do to the parts. -/
theorem tells_readSimple {item : PatternItem} (hitem : tellsNumber item = false)
    (h : readSimple item p cs = some (p', rest)) : Tells p p' := by
  cases item with
  | literal c =>
      cases cs with
      | nil => cases h
      | cons e behind =>
          change (if e = c then some (p, behind) else none) = some (p', rest) at h
          split at h
          · cases h
            exact .nothing
          · cases h
  | space c =>
      cases h
      exact .nothing
  | number part filling => cases hitem
  | text part =>
      cases part with
      | shortMonth => exact tells_readMonth h
      | longMonth => exact tells_readMonth h
      | shortWeekday => exact tells_readWeekday h
      | longWeekday => exact tells_readWeekday h
      | lowerHalf => exact tells_readHalf h
      | upperHalf => exact tells_readHalf h
      | fraction => exact tells_behindPoint h
      | fixedFraction digits point =>
          cases point with
          | true => exact tells_behindPoint h
          | false => exact tells_readNanosecond h
      | zoneName =>
          cases h
          exact .nothing
      | offset => exact tells_readOffset h
      | offsetColon => exact tells_readOffset h
      | offsetSeconds => exact tells_readOffset h
      | offsetHours => exact tells_readOffset h
      | anyOffset => exact tells_readOffset h
      | timestampText => cases hitem

theorem readItem_of_ne {item : PatternItem} (h : item ≠ .text .timestampText) :
    readItem item = readSimple item := by
  funext p cs
  rw [readItem.eq_2]
  exact h

/-- An item without a number tells nothing of the year. -/
theorem Tells.yearParts (h : Tells p p') : p'.yearParts = p.yearParts := by
  cases h with
  | nothing => rfl
  | month h | weekday h | afternoon h | nanosecond h | offset h =>
      obtain ⟨_, -, rfl⟩ := Option.map_eq_some_iff.1 h
      rfl

/-- A pattern without a number reads no date, whatever the text. -/
theorem yearParts_readItems {items : DatePattern}
    (hitems : ∀ item ∈ items, tellsNumber item = false)
    (h : items.readItems p cs = some (p', rest)) : p'.yearParts = p.yearParts := by
  induction items generalizing p cs with
  | nil =>
      cases h
      rfl
  | cons item items ih =>
      rw [readItems] at h
      split at h
      · rename_i q behind hitem
        rw [ih (fun i hi => hitems i (List.mem_cons_of_mem _ hi)) h]
        have htells := hitems item (List.mem_cons_self ..)
        have hne : item ≠ .text .timestampText := by
          rintro rfl
          cases htells
        rw [readItem_of_ne hne] at hitem
        exact (tells_readSimple htells hitem).yearParts
      · cases h

/-- A pattern that reads a date shows a number of it. -/
theorem exists_tellsNumber {items : DatePattern} {s : String} {d : Date}
    (h : items.read? s = some d) : ∃ item ∈ items, tellsNumber item = true := by
  refine Classical.byContradiction fun hnone => ?_
  have hitems : ∀ item ∈ items, tellsNumber item = false := by
    intro item hmem
    exact Bool.eq_false_iff.2 fun hitem => hnone ⟨item, hmem, hitem⟩
  rw [read?] at h
  split at h
  · rw [date?_eq_none (yearParts_readItems hitems ‹_›)] at h
    cases h
  · cases h

/-! ## Numbers are not blank -/

/-- Something else than a blank occurs in a text. -/
def HasMark (cs : List Char) : Prop := ∃ c ∈ cs, Text.isBlank c = false

theorem HasMark.append_left {ds : List Char} (h : HasMark cs) : HasMark (cs ++ ds) :=
  h.imp fun _ hc => ⟨List.mem_append_left _ hc.1, hc.2⟩

theorem HasMark.append_right {ds : List Char} (h : HasMark ds) : HasMark (cs ++ ds) :=
  h.imp fun _ hc => ⟨List.mem_append_right _ hc.1, hc.2⟩

theorem hasMark_cons {c : Char} (h : Text.isBlank c = false) (cs : List Char) : HasMark (c :: cs) :=
  ⟨c, List.mem_cons_self .., h⟩

theorem isBlank_digitChar {n : Nat} (h : n < 10) : Text.isBlank (Decimal.digitChar n) = false :=
  Numbering.isBlank_of_isDigit (Decimal.isDigit_digitChar h)

theorem hasMark_digits (n : Nat) : HasMark (Decimal.digits n) := by
  cases h : Decimal.digits n with
  | nil => exact absurd h (Decimal.digits_ne_nil n)
  | cons c ds =>
      refine hasMark_cons (Numbering.isBlank_of_isDigit ?_) ds
      exact Decimal.isDigit_of_mem_digits (h ▸ List.mem_cons_self ..)

theorem HasMark.filledText (h : HasMark cs) (filling : Filling) (width : Nat) :
    HasMark (filledText filling width cs) := by
  cases filling with
  | nothing => exact h
  | zeros => exact h.append_right
  | spaces => exact h.append_right

theorem hasMark_twoPlaces (filling : Filling) (n : Nat) : HasMark (twoPlaces filling n) := by
  have hones : HasMark [Decimal.digitChar (n % 10)] :=
    hasMark_cons (isBlank_digitChar (Nat.mod_lt _ (by decide))) []
  rw [twoPlaces]
  split
  · exact hones
  · split
    · exact (hones.append_right : HasMark ([' '] ++ [_]))
    · exact (hones.append_right : HasMark ([_] ++ [_]))

theorem hasMark_signedNumber (filling : Filling) (width : Nat) (n : Int) :
    HasMark (signedNumber filling width n) := by
  have hsign : ∀ {ds : List Char}, HasMark ds → HasMark ((if n < 0 then '-' else '+') :: ds) :=
    fun h => (h.append_right : HasMark ([_] ++ _))
  have hdigits := hasMark_digits n.natAbs
  cases filling with
  | nothing => exact (hsign hdigits).filledText .nothing width
  | zeros => exact hsign (hdigits.filledText .zeros (width - 1))
  | spaces => exact (hsign hdigits).filledText .spaces width

theorem hasMark_yearNumber (filling : Filling) (y : Int) : HasMark (yearNumber filling y) := by
  rw [yearNumber]
  split
  · exact (hasMark_digits _).filledText filling 4
  · exact hasMark_signedNumber filling 5 y

theorem hasMark_numberText (d : Date) (filling : Filling) (part : NumberPart) :
    HasMark (numberText d filling part) := by
  cases part with
  | year => exact hasMark_yearNumber filling _
  | isoYear => exact hasMark_yearNumber filling _
  | quarter =>
      have := d.month_bounds
      refine hasMark_cons (isBlank_digitChar ?_) []
      rw [Date.quarter]
      omega
  | daysSinceSunday =>
      refine hasMark_cons (isBlank_digitChar ?_) []
      rw [Weekday.sinceSunday]
      omega
  | dayOfWeek =>
      refine hasMark_cons (isBlank_digitChar ?_) []
      cases d.weekday <;> decide
  | hour12 => exact hasMark_twoPlaces filling 12
  | ordinal => exact (hasMark_digits _).filledText filling 3
  | nanosecond => exact (hasMark_cons (by decide) []).filledText filling 9
  | timestamp =>
      rw [numberText, wideNumber]
      split
      · exact hasMark_signedNumber filling 9 _
      · exact (hasMark_digits _).filledText filling 9
  | _ => exact hasMark_twoPlaces filling _

theorem hasMark_isoText (d : Date) : HasMark d.isoText.toList := by
  have hday : HasMark ('-' :: Decimal.padded 2 d.day) := hasMark_cons (by decide) _
  rw [Date.isoText, String.toList_ofList]
  exact hday.append_right

theorem hasMark_of_itemText? {d : Date} {item : PatternItem} (hitem : tellsNumber item = true)
    (h : itemText? d item = some cs) : HasMark cs := by
  cases item with
  | literal c => cases hitem
  | space c => cases hitem
  | number part filling =>
      cases h
      exact hasMark_numberText d filling part
  | text part =>
      cases part with
      | timestampText =>
          cases h
          exact (hasMark_isoText d).append_left
      | _ => cases hitem

/-- A pattern with a number writes no blank text. -/
theorem hasMark_of_write? {p : DatePattern} {d : Date} {item : PatternItem} (hmem : item ∈ p)
    (hitem : tellsNumber item = true) (h : p.write? d = some cs) : HasMark cs := by
  induction p generalizing cs with
  | nil => cases hmem
  | cons other p ih =>
      obtain ⟨first, behind, hfirst, hbehind, rfl⟩ := write?_cons.1 h
      rcases List.mem_cons.1 hmem with rfl | hmem
      · exact (hasMark_of_itemText? hitem hfirst).append_left
      · exact (ih hmem hbehind).append_right

end DatePattern

namespace DateFormat

open DatePattern

/-- What a format writes is not blank, if there is any text that it can read. -/
theorem isBlankText_write {format s : String} {d : Date} (h : parse? format s = some d) (e : Date) :
    Text.isBlankText (write format e) = false := by
  have hmark : HasMark (write format e).toList := by
    obtain ⟨p, hp, hread⟩ := Option.bind_eq_some_iff.1 h
    obtain ⟨item, hmem, hitem⟩ := exists_tellsNumber hread
    cases hcs : p.write? e with
    | none =>
        rw [write, format?, hp, Option.bind_eq_bind, Option.bind_some, hcs]
        exact hasMark_isoText e
    | some cs =>
        rw [write_of_write? hp hcs, String.toList_ofList]
        exact hasMark_of_write? hmem hitem hcs
  obtain ⟨c, hc, hblank⟩ := hmark
  rw [Text.isBlankText, List.all_eq_false]
  exact ⟨c, hc, by simp [hblank]⟩

end DateFormat
end WorkItems
