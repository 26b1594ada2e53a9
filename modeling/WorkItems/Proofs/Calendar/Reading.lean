import WorkItems.Proofs.Calendar.Marks
/-!
# What reading tells of the day

Whatever is read of a date stays known while the rest of the text is read. So a text that is read as
a date by a pattern of three numbers, whatever comes behind them, starts with the year, the month
and the day of this date in the order of the pattern.
-/

namespace WorkItems

/-! ## What stays known while a text is read -/

namespace DateParts

variable {p p' q : DateParts} {d e : Date}

theorem agreesOnDay_iff : p.agreesOnDay d = true ↔
    p.year.all (· == d.year) = true ∧
    p.century.all (fun c => 0 ≤ d.year && d.year.toNat / 100 == c) = true ∧
    p.yearOfCentury.all (fun r => 0 ≤ d.year && d.year.toNat % 100 == r) = true ∧
    p.month.all (· == d.month) = true ∧ p.day.all (· == d.day) = true := by
  simp only [agreesOnDay, Bool.and_eq_true, and_assoc]

theorem agreesOnDay_of_date? (h : p.date? = some d) : p.agreesOnDay d = true := by
  simp only [date?, Option.bind_eq_bind, Option.bind_eq_some_iff] at h
  obtain ⟨_, -, _, -, e, -, h⟩ := h
  split at h
  · rename_i hagrees
    cases h
    simp only [Bool.and_eq_true] at hagrees
    exact hagrees.1.1.1
  · cases h

/-- Every date that has the day as it is known now has it as it was known before. -/
def KeepsDay (p p' : DateParts) : Prop := ∀ d, p'.agreesOnDay d = true → p.agreesOnDay d = true

theorem KeepsDay.refl (p : DateParts) : KeepsDay p p := fun _ h => h

theorem KeepsDay.trans (h : KeepsDay p q) (h' : KeepsDay q p') : KeepsDay p p' :=
  fun d hd => h d (h' d hd)

/-- A part that got a value has this one, and had no other. -/
theorem all_of_agree {α : Type} [DecidableEq α] {old new : Option α} {a : α} {P : α → Bool}
    (h : agree old a = some new) (hnew : new.all P = true) : P a = true ∧ old.all P = true := by
  cases old with
  | none =>
      cases h
      exact ⟨hnew, rfl⟩
  | some b =>
      rw [agree] at h
      split at h
      · rename_i heq
        cases h
        exact ⟨heq ▸ hnew, hnew⟩
      · cases h

theorem agree_of_bounded {low high n : Nat} {old new : Option Nat}
    (h : bounded low high old n = some new) : agree old n = some new := by
  rw [bounded] at h
  split at h
  · exact h
  · cases h

theorem year_of_setNumber {v : Int} (h : p.setNumber .year v = some p')
    (hd : p'.agreesOnDay d = true) : v = d.year ∧ p.agreesOnDay d = true := by
  rw [agreesOnDay_iff] at hd ⊢
  rw [setNumber] at h
  split at h
  · obtain ⟨year, hyear, rfl⟩ := Option.map_eq_some_iff.1 h
    obtain ⟨heq, hold⟩ := all_of_agree hyear hd.1
    exact ⟨eq_of_beq heq, hold, hd.2⟩
  · cases h

theorem month_of_setMonth {m : Nat} (h : p.setMonth m = some p') (hd : p'.agreesOnDay d = true) :
    m = d.month ∧ p.agreesOnDay d = true := by
  rw [agreesOnDay_iff] at hd ⊢
  obtain ⟨month, hmonth, rfl⟩ := Option.map_eq_some_iff.1 h
  obtain ⟨hyear, hcentury, hyearOfCentury, hnew, hday⟩ := hd
  obtain ⟨heq, hold⟩ := all_of_agree (agree_of_bounded hmonth) hnew
  exact ⟨eq_of_beq heq, hyear, hcentury, hyearOfCentury, hold, hday⟩

theorem day_of_setNumber {v : Int} (h : p.setNumber .day v = some p')
    (hd : p'.agreesOnDay d = true) : v.toNat = d.day ∧ p.agreesOnDay d = true := by
  rw [agreesOnDay_iff] at hd ⊢
  obtain ⟨day, hday, rfl⟩ := Option.map_eq_some_iff.1 h
  obtain ⟨hyear, hcentury, hyearOfCentury, hmonth, hnew⟩ := hd
  obtain ⟨heq, hold⟩ := all_of_agree (agree_of_bounded hday) hnew
  exact ⟨eq_of_beq heq, hyear, hcentury, hyearOfCentury, hmonth, hold⟩

theorem keepsDay_setNumber {part : NumberPart} {v : Int} (h : p.setNumber part v = some p') :
    KeepsDay p p' := by
  intro d hd
  cases part with
  | year => exact (year_of_setNumber h hd).2
  | month => exact (month_of_setMonth h hd).2
  | day => exact (day_of_setNumber h hd).2
  | century =>
      rw [agreesOnDay_iff] at hd ⊢
      obtain ⟨century, hcentury, rfl⟩ := Option.map_eq_some_iff.1 h
      exact ⟨hd.1, (all_of_agree hcentury hd.2.1).2, hd.2.2⟩
  | yearOfCentury =>
      rw [agreesOnDay_iff] at hd ⊢
      obtain ⟨year, hyear, rfl⟩ := Option.map_eq_some_iff.1 h
      exact ⟨hd.1, hd.2.1, (all_of_agree (agree_of_bounded hyear) hd.2.2.1).2, hd.2.2.2⟩
  | isoYear | daysSinceSunday | dayOfWeek | hour12 =>
      rw [setNumber] at h
      split at h
      · obtain ⟨_, -, rfl⟩ := Option.map_eq_some_iff.1 h
        exact hd
      · cases h
  | hour =>
      rw [setNumber, setHour] at h
      split at h
      · cases h
      · obtain ⟨q, hq, h⟩ := Option.bind_eq_some_iff.1 h
        obtain ⟨_, -, rfl⟩ := Option.map_eq_some_iff.1 hq
        obtain ⟨_, -, heq⟩ := Option.bind_eq_some_iff.1 h
        cases heq
        exact hd
  | _ =>
      obtain ⟨_, -, rfl⟩ := Option.map_eq_some_iff.1 h
      exact hd

/-- Dates with the same year, month and day are the same. -/
theorem eq_of_number (hyear : number d .year = number e .year)
    (hmonth : number d .month = number e .month) (hday : number d .day = number e .day) :
    d = e := by
  have hself := ofYmd?_self d
  rw [show d.year = e.year from hyear, Int.natCast_inj.1 hmonth, Int.natCast_inj.1 hday,
    ofYmd?_self] at hself
  exact (Option.some.inj hself).symm

end DateParts

namespace DatePattern

open DateParts

variable {p p' q : DateParts} {cs rest : List Char} {items : DatePattern}

theorem Tells.keepsDay (h : Tells p p') : KeepsDay p p' := by
  intro d hd
  cases h with
  | nothing => exact hd
  | month h => exact (month_of_setMonth h hd).2
  | weekday h | afternoon h | nanosecond h | offset h =>
      obtain ⟨_, -, rfl⟩ := Option.map_eq_some_iff.1 h
      exact hd

theorem readNumber_eq_some {part : NumberPart} : readNumber part p cs = some (p', rest) ↔
    ∃ v, takePart part (cs.dropWhile Text.isBlank) = some (v, rest) ∧
      p.setNumber part v = some p' := by
  rw [readNumber, Option.bind_eq_bind, Option.bind_eq_some_iff]
  constructor
  · rintro ⟨⟨v, behind⟩, htake, h⟩
    obtain ⟨q, hq, heq⟩ := Option.bind_eq_some_iff.1 h
    cases heq
    exact ⟨v, htake, hq⟩
  · rintro ⟨v, htake, hset⟩
    exact ⟨(v, rest), htake, by simp only [hset, Option.bind_eq_bind, Option.bind_some]⟩

theorem keepsDay_readSimple {item : PatternItem} (h : readSimple item p cs = some (p', rest)) :
    KeepsDay p p' := by
  cases hitem : tellsNumber item with
  | false => exact (tells_readSimple hitem h).keepsDay
  | true =>
      cases item with
      | number part filling =>
          obtain ⟨v, -, hset⟩ := readNumber_eq_some.1 h
          exact keepsDay_setNumber hset
      | text part =>
          cases part with
          | timestampText => cases h
          | _ => cases hitem
      | _ => cases hitem

theorem keepsDay_readSimples (h : items.readSimples p cs = some (p', rest)) : KeepsDay p p' := by
  induction items generalizing p cs with
  | nil =>
      cases h
      exact .refl _
  | cons item items ih =>
      rw [readSimples] at h
      split at h
      · rename_i hitem
        exact (keepsDay_readSimple hitem).trans (ih h)
      · cases h

theorem keepsDay_readTimestamp (h : readTimestamp p cs = some (p', rest)) : KeepsDay p p' := by
  rw [readTimestamp] at h
  split at h
  · rename_i hday
    split at h
    · split at h
      · rename_i htime
        refine (keepsDay_readSimples hday).trans ((keepsDay_readSimples htime).trans ?_)
        split at h
        · obtain ⟨q, hq, heq⟩ := Option.map_eq_some_iff.1 h
          cases heq
          exact (Tells.offset hq).keepsDay
        · exact (tells_readOffset h).keepsDay
      · cases h
    · cases h
  · cases h

theorem keepsDay_readItem {item : PatternItem} (h : readItem item p cs = some (p', rest)) :
    KeepsDay p p' := by
  rw [readItem.eq_def] at h
  split at h
  · exact keepsDay_readTimestamp h
  · exact keepsDay_readSimple h

/-- Reading on never takes back what is known of the day. -/
theorem keepsDay_readItems (h : items.readItems p cs = some (p', rest)) : KeepsDay p p' := by
  induction items generalizing p cs with
  | nil =>
      cases h
      exact .refl _
  | cons item items ih =>
      rw [readItems] at h
      split at h
      · rename_i hitem
        exact (keepsDay_readItem hitem).trans (ih h)
      · cases h

/-! ## Three numbers with a character between them -/

/-- A pattern of three numbers with the same character between them. -/
def apart (sep : Char) (a b c : NumberPart) : DatePattern :=
  [zeroFilled a, .literal sep, zeroFilled b, .literal sep, zeroFilled c]

/--
A text starts with three parts of a date, with the same character between them, and goes on with
`rest`. Blanks may stand in front of every part.
-/
def StartsWith (sep : Char) (a b c : NumberPart) (d : Date) (cs rest : List Char) : Prop :=
  ∃ first second,
    takePart a (cs.dropWhile Text.isBlank) = some (number d a, sep :: first) ∧
    takePart b (first.dropWhile Text.isBlank) = some (number d b, sep :: second) ∧
    takePart c (second.dropWhile Text.isBlank) = some (number d c, rest)

variable {sep : Char} {a b c : NumberPart} {d e : Date}

theorem readItems_number {part : NumberPart} {x : DateParts × List Char} :
    readItems (zeroFilled part :: items) p cs = some x ↔
      ∃ v behind p', takePart part (cs.dropWhile Text.isBlank) = some (v, behind) ∧
        p.setNumber part v = some p' ∧ items.readItems p' behind = some x := by
  have hitem : readItem (zeroFilled part) p cs = readNumber part p cs := rfl
  rw [readItems, hitem]
  constructor
  · intro h
    split at h
    · rename_i hread
      obtain ⟨v, htake, hset⟩ := readNumber_eq_some.1 hread
      exact ⟨v, _, _, htake, hset, h⟩
    · cases h
  · rintro ⟨v, behind, p', htake, hset, h⟩
    rw [readNumber_eq_some.2 ⟨v, htake, hset⟩]
    exact h

theorem readItems_literal {x : DateParts × List Char} :
    readItems (.literal sep :: items) p cs = some x ↔
      ∃ behind, cs = sep :: behind ∧ items.readItems p behind = some x := by
  cases cs with
  | nil =>
      constructor
      · intro h
        cases h
      · rintro ⟨_, heq, -⟩
        cases heq
  | cons e behind =>
      have hitem : readItem (.literal sep) p (e :: behind) =
          if e = sep then some (p, behind) else none := rfl
      rw [readItems, hitem]
      constructor
      · intro h
        by_cases he : e = sep
        · rw [if_pos he] at h
          exact ⟨behind, congrArg (· :: behind) he, h⟩
        · rw [if_neg he] at h
          cases h
      · rintro ⟨_, heq, h⟩
        cases heq
        rw [if_pos rfl]
        exact h

theorem readItems_append {more : DatePattern} {x : DateParts × List Char} :
    readItems (items ++ more) p cs = some x ↔
      ∃ q behind, items.readItems p cs = some (q, behind) ∧ more.readItems q behind = some x := by
  induction items generalizing p cs with
  | nil =>
      constructor
      · intro h
        exact ⟨p, cs, rfl, h⟩
      · rintro ⟨_, _, heq, h⟩
        cases heq
        exact h
  | cons item items ih =>
      rw [List.cons_append, readItems, readItems]
      cases readItem item p cs with
      | none =>
          constructor
          · intro h
            cases h
          · rintro ⟨_, _, h, -⟩
            cases h
      | some y => exact ih

/-- Of the parts of a date only the year may be negative. -/
theorem nonneg_of_takePart {part : NumberPart} (hpart : part = .month ∨ part = .day) {v : Int}
    (h : takePart part cs = some (v, rest)) : 0 ≤ v := by
  have hmap : (takeNumber 2 cs).map (fun x => ((x.1 : Int), x.2)) = some (v, rest) := by
    rcases hpart with rfl | rfl <;> exact h
  obtain ⟨x, -, hx⟩ := Option.map_eq_some_iff.1 hmap
  cases hx
  exact Int.natCast_nonneg _

/-- A number that is read for a part is the one of every date that has what is known then. -/
theorem number_of_setNumber {part : NumberPart} (hpart : part ∈ [.year, .month, .day]) {v : Int}
    (htake : takePart part cs = some (v, rest)) (hset : p.setNumber part v = some p')
    (hd : p'.agreesOnDay d = true) : v = number d part := by
  simp only [List.mem_cons, List.not_mem_nil, or_false] at hpart
  rcases hpart with rfl | rfl | rfl
  · exact (year_of_setNumber hset hd).1
  · have hmonth : v.toNat = d.month := (month_of_setMonth hset hd).1
    have hnonneg := nonneg_of_takePart (.inl rfl) htake
    calc v = (v.toNat : Int) := (Int.toNat_of_nonneg hnonneg).symm
      _ = d.month := congrArg _ hmonth
  · have hday := (day_of_setNumber hset hd).1
    have hnonneg := nonneg_of_takePart (.inr rfl) htake
    calc v = (v.toNat : Int) := (Int.toNat_of_nonneg hnonneg).symm
      _ = d.day := congrArg _ hday

section Apart

variable (horder : [a, b, c].Perm [.year, .month, .day])

include horder

/-- A text that a pattern of three numbers reads first shows these three parts of the date. -/
theorem startsWith_of_readItems {more : DatePattern} {q : DateParts}
    (h : (apart sep a b c ++ more).readItems .empty cs = some (q, rest))
    (hd : q.agreesOnDay d = true) :
    ∃ behind p, StartsWith sep a b c d cs behind ∧ more.readItems p behind = some (q, rest) := by
  have hpart : ∀ {part}, part ∈ [a, b, c] → part ∈ [.year, .month, .day] := horder.mem_iff.1
  obtain ⟨p₃, behind, hfirst, hmore⟩ := readItems_append.1 h
  obtain ⟨v₁, _, p₁, htake₁, hset₁, hsep₁⟩ := readItems_number.1 hfirst
  obtain ⟨first, rfl, hsecond⟩ := readItems_literal.1 hsep₁
  obtain ⟨v₂, _, p₂, htake₂, hset₂, hsep₂⟩ := readItems_number.1 hsecond
  obtain ⟨second, rfl, hthird⟩ := readItems_literal.1 hsep₂
  obtain ⟨v₃, _, _, htake₃, hset₃, hend⟩ := readItems_number.1 hthird
  cases hend
  have hd₃ := keepsDay_readItems hmore d hd
  have hd₂ := keepsDay_setNumber hset₃ d hd₃
  have hd₁ := keepsDay_setNumber hset₂ d hd₂
  have hv₁ := number_of_setNumber (hpart (by simp)) htake₁ hset₁ hd₁
  have hv₂ := number_of_setNumber (hpart (by simp)) htake₂ hset₂ hd₂
  have hv₃ := number_of_setNumber (hpart (by simp)) htake₃ hset₃ hd₃
  exact ⟨behind, _, ⟨first, second, hv₁ ▸ htake₁, hv₂ ▸ htake₂, hv₃ ▸ htake₃⟩, hmore⟩

/-- What starts with the parts of a date is read as these parts. -/
theorem readItems_of_startsWith (h : StartsWith sep a b c d cs rest) :
    (apart sep a b c).readItems .empty cs =
      some (ofDate d fun q => ((false || q == a) || q == b) || q == c, rest) := by
  have hday : ∀ {part}, part ∈ [a, b, c] → isDayPart part = true := by
    intro part hmem
    have hfull := horder.mem_iff.1 hmem
    simp only [List.mem_cons, List.not_mem_nil, or_false] at hfull
    rcases hfull with rfl | rfl | rfl <;> rfl
  obtain ⟨first, second, htake₁, htake₂, htake₃⟩ := h
  have hset₁ : DateParts.empty.setNumber a (number d a) =
      some (ofDate d fun q => false || q == a) :=
    setNumber_ofDate (hday (by simp)) d fun _ => false
  have hset₂ := setNumber_ofDate (hday (by simp : b ∈ [a, b, c])) d fun q => false || q == a
  have hset₃ := setNumber_ofDate (hday (by simp : c ∈ [a, b, c])) d fun q =>
    (false || q == a) || q == b
  have hend : readItems [] (ofDate d fun q => ((false || q == a) || q == b) || q == c) rest = _ :=
    rfl
  have hthird := readItems_number.2 ⟨_, _, _, htake₃, hset₃, hend⟩
  have hsecond := readItems_number.2
    ⟨_, _, _, htake₂, hset₂, readItems_literal.2 ⟨second, rfl, hthird⟩⟩
  exact readItems_number.2 ⟨_, _, _, htake₁, hset₁, readItems_literal.2 ⟨first, rfl, hsecond⟩⟩

theorem startsWith_of_read? {more : DatePattern} {s : String}
    (h : (apart sep a b c ++ more).read? s = some d) :
    ∃ behind, StartsWith sep a b c d s.toList behind := by
  rw [read?] at h
  split at h
  · rename_i hread
    obtain ⟨behind, _, hstarts, -⟩ :=
      startsWith_of_readItems horder hread (agreesOnDay_of_date? h)
    exact ⟨behind, hstarts⟩
  · cases h

/-- A pattern of three numbers reads the texts that are the three parts of a date. -/
theorem read?_apart {s : String} :
    (apart sep a b c).read? s = some d ↔ StartsWith sep a b c d s.toList [] := by
  constructor
  · intro h
    rw [read?] at h
    split at h
    · rename_i hread
      rw [← List.append_nil (apart sep a b c)] at hread
      obtain ⟨behind, _, hstarts, hend⟩ :=
        startsWith_of_readItems horder hread (agreesOnDay_of_date? h)
      cases hend
      exact hstarts
    · cases h
  · intro h
    have hnamed : ∀ part, (((false || part == a) || part == b) || part == c) = true ↔
        part ∈ [.year, .month, .day] := by
      intro part
      rw [← horder.mem_iff]
      simp [or_assoc]
    rw [read?, readItems_of_startsWith horder h]
    refine date?_ofDate ((hnamed _).2 (by simp)) (Bool.eq_false_iff.2 fun hcentury => ?_)
      ((hnamed _).2 (by simp)) ((hnamed _).2 (by simp))
    have hmem := (hnamed _).1 hcentury
    simp at hmem

/-- A text starts with the parts of one date only. -/
theorem StartsWith.date_eq {rest' : List Char} (h : StartsWith sep a b c d cs rest)
    (h' : StartsWith sep a b c e cs rest') : d = e := by
  obtain ⟨first, second, htake₁, htake₂, htake₃⟩ := h
  obtain ⟨first', second', htake₁', htake₂', htake₃'⟩ := h'
  obtain ⟨ha, hfirst⟩ := Prod.mk.inj (Option.some.inj (htake₁.symm.trans htake₁'))
  cases hfirst
  obtain ⟨hb, hsecond⟩ := Prod.mk.inj (Option.some.inj (htake₂.symm.trans htake₂'))
  cases hsecond
  obtain ⟨hc, -⟩ := Prod.mk.inj (Option.some.inj (htake₃.symm.trans htake₃'))
  have hnumber : ∀ part ∈ [NumberPart.year, .month, .day], number d part = number e part := by
    intro part hpart
    have hmem := horder.mem_iff.2 hpart
    simp only [List.mem_cons, List.not_mem_nil, or_false] at hmem
    rcases hmem with rfl | rfl | rfl
    · exact ha
    · exact hb
    · exact hc
  exact eq_of_number (hnumber _ (by simp)) (hnumber _ (by simp)) (hnumber _ (by simp))

end Apart

/-- What stands between the parts of a date is seen behind the first of them. -/
theorem StartsWith.sep_eq {sep' : Char} {b' c' : NumberPart} {rest' : List Char}
    (h : StartsWith sep a b c d cs rest) (h' : StartsWith sep' a b' c' e cs rest') :
    sep = sep' := by
  obtain ⟨first, second, htake, -⟩ := h
  obtain ⟨first', second', htake', -⟩ := h'
  obtain ⟨-, hrest⟩ := Prod.mk.inj (Option.some.inj (htake.symm.trans htake'))
  exact (List.cons.inj hrest).1

end DatePattern
end WorkItems
