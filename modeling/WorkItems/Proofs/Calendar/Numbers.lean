import WorkItems.Calendar.Format
import WorkItems.Proofs.Numbering
/-!
# The numbers of a date, written and read again

A year, a month or a day that was written is read again as the number it was, however it was filled
up, as long as no digit follows it: blanks in front of a number are passed over, zeros in front of
digits do not count, and a year beyond four digits carries a sign that frees it from its width.
-/

namespace WorkItems

open Decimal

namespace DatePattern

/-- The two ways to ask for a digit agree. -/
theorem isDigit_eq (c : Char) : c.isDigit = Decimal.isDigit c := rfl

/-! ## Taking digits from the front -/

/-- A text behind a number that does not go on with a digit. -/
def EndsNumber (rest : List Char) : Prop := ∀ c, rest.head? = some c → Decimal.isDigit c = false

theorem takeWhile_take_of_endsNumber {rest : List Char} (h : EndsNumber rest) (n : Nat) :
    (rest.take n).takeWhile Char.isDigit = [] := by
  cases n with
  | zero => rfl
  | succ n =>
      cases rest with
      | nil => rfl
      | cons c rest =>
          rw [List.take_succ_cons, List.takeWhile_cons_of_neg (by simp [isDigit_eq, h c rfl])]

/-- Digits that fit into the width are taken whole. -/
theorem takeNumber_append {width : Nat} {ds rest : List Char}
    (hds : ∀ c ∈ ds, Decimal.isDigit c = true) (hne : ds ≠ []) (hwidth : ds.length ≤ width)
    (hvalue : value ds < bitBound 63) (hrest : EndsNumber rest) :
    takeNumber width (ds ++ rest) = some (value ds, rest) := by
  have htaken : ((ds ++ rest).take width).takeWhile Char.isDigit = ds := by
    rw [List.take_append, List.take_of_length_le hwidth,
      List.takeWhile_append_of_pos (p := Char.isDigit) hds, takeWhile_take_of_endsNumber hrest,
      List.append_nil]
  have hfits : (ds.isEmpty || decide (bitBound 63 ≤ value ds)) = false := by
    simp [hne, Nat.not_le.2 hvalue]
  simp only [takeNumber, htaken, hfits, List.drop_left]
  rfl

/-! ## Numbers that are filled up -/

theorem dropWhile_isBlank_spaces (k : Nat) (cs : List Char) :
    (List.replicate k ' ' ++ cs).dropWhile Text.isBlank = cs.dropWhile Text.isBlank := by
  induction k with
  | zero => rfl
  | succ k ih =>
      rw [List.replicate_succ, List.cons_append, List.dropWhile_cons_of_pos (by decide), ih]

theorem dropWhile_isBlank_cons {c : Char} (h : Text.isBlank c = false) (cs : List Char) :
    (c :: cs).dropWhile Text.isBlank = c :: cs :=
  List.dropWhile_cons_of_neg (by simp [h])

/-- Digits in front of which blanks are passed over. -/
theorem dropWhile_isBlank_digits {ds rest : List Char} (hds : ∀ c ∈ ds, Decimal.isDigit c = true)
    (hne : ds ≠ []) : (ds ++ rest).dropWhile Text.isBlank = ds ++ rest := by
  cases ds with
  | nil => exact absurd rfl hne
  | cons d ds =>
      exact dropWhile_isBlank_cons (Numbering.isBlank_of_isDigit (hds d (List.mem_cons_self ..))) _

/-- Digits that stand for a number and take up no more than some places. -/
structure Shows (ds : List Char) (width n : Nat) : Prop where
  isDigit : ∀ c ∈ ds, Decimal.isDigit c = true
  ne_nil : ds ≠ []
  length_le : ds.length ≤ width
  value : value ds = n

theorem shows_digits {width n : Nat} (h : n < 10 ^ width) (hwidth : width ≠ 0) :
    Shows (digits n) width n :=
  ⟨fun _ => isDigit_of_mem_digits, digits_ne_nil n, length_digits_le h hwidth, value_digits n⟩

/-- Zeros change nothing while there is room for them. -/
theorem Shows.zeros {ds : List Char} {width places n : Nat} (h : Shows ds width n)
    (hplaces : places ≤ width) :
    Shows (List.replicate (places - ds.length) '0' ++ ds) width n where
  isDigit c hc := by
    rcases List.mem_append.1 hc with hc | hc
    · rw [(List.mem_replicate.1 hc).2]
      decide
    · exact h.isDigit c hc
  ne_nil hnil := h.ne_nil (List.append_eq_nil_iff.1 hnil).2
  length_le := by
    have := h.length_le
    rw [List.length_append, List.length_replicate]
    omega
  value := by rw [value_zeros_append, h.value]

/-- Behind the blanks of a number that is filled up come digits that show it. -/
theorem dropWhile_filledText {ds : List Char} {width n : Nat} (h : Shows ds width n)
    (filling : Filling) (rest : List Char) :
    ∃ ds', (filledText filling width ds ++ rest).dropWhile Text.isBlank = ds' ++ rest ∧
      Shows ds' width n := by
  cases filling with
  | nothing => exact ⟨ds, dropWhile_isBlank_digits h.isDigit h.ne_nil, h⟩
  | zeros =>
      have hzeros := h.zeros (Nat.le_refl _)
      exact ⟨_, dropWhile_isBlank_digits hzeros.isDigit hzeros.ne_nil, hzeros⟩
  | spaces =>
      refine ⟨ds, ?_, h⟩
      rw [filledText, List.append_assoc, dropWhile_isBlank_spaces,
        dropWhile_isBlank_digits h.isDigit h.ne_nil]

/-- A number of at most two digits is filled up as any other is. -/
theorem twoPlaces_eq_filledText {n : Nat} (h : n < 100) (filling : Filling) :
    twoPlaces filling n = filledText filling 2 (digits n) := by
  by_cases hn : n < 10
  · have hmod : n % 10 = n := Nat.mod_eq_of_lt hn
    have hdiv : n / 10 = 0 := Nat.div_eq_of_lt hn
    rw [digits_of_lt hn, twoPlaces]
    cases filling <;> simp [hn, hmod, hdiv, filledText, digitChar]
  · have htens : n / 10 < 10 := by omega
    rw [digits_of_ge (by omega), digits_of_lt htens, twoPlaces]
    cases filling <;> simp [hn, filledText]

/-! ## Numbers that are read again -/

/-- A part of a date is read from a text as the number `v`, whatever follows but a digit. -/
def Reads (part : NumberPart) (text : List Char) (v : Int) : Prop :=
  ∀ rest, EndsNumber rest →
    takePart part ((text ++ rest).dropWhile Text.isBlank) = some (v, rest)

theorem reads_twoPlaces {part : NumberPart}
    (hpart : part = .yearOfCentury ∨ part = .month ∨ part = .day) {n : Nat} (hn : n < 100)
    (filling : Filling) : Reads part (twoPlaces filling n) n := by
  intro rest hrest
  have htwo : n < 10 ^ 2 := hn
  obtain ⟨ds, hds, hshows⟩ := dropWhile_filledText (shows_digits htwo (by decide)) filling rest
  have hvalue : value ds < bitBound 63 := by
    rw [hshows.value, bitBound]
    omega
  have htake : takeNumber 2 (ds ++ rest) = some (n, rest) := by
    rw [takeNumber_append hshows.isDigit hshows.ne_nil hshows.length_le hvalue hrest, hshows.value]
  rw [twoPlaces_eq_filledText hn, hds]
  rcases hpart with rfl | rfl | rfl <;> simp only [takePart, widthOf, htake, Option.map_some]

/-- A year of four digits is read without a sign. -/
theorem takeSigned_digits {ds rest : List Char} {n : Nat} (h : Shows ds 4 n)
    (hn : n < bitBound 63) (hrest : EndsNumber rest) :
    takeSigned 4 (ds ++ rest) = some ((n : Int), rest) := by
  have hvalue : value ds < bitBound 63 := h.value.symm ▸ hn
  have htake := takeNumber_append h.isDigit h.ne_nil h.length_le hvalue hrest
  cases ds with
  | nil => exact absurd rfl h.ne_nil
  | cons c ds =>
      have hc := h.isDigit c (List.mem_cons_self ..)
      rw [List.cons_append] at htake ⊢
      rw [takeSigned.eq_3, htake, h.value]
      · rfl
      · rintro cs heq
        cases heq
        cases hc
      · rintro cs heq
        cases heq
        cases hc

/-- Behind a sign all digits that come are read. -/
theorem takeSigned_sign {ds rest : List Char} {width : Nat} {y : Int} (h : Shows ds width y.natAbs)
    (hy : y.natAbs < bitBound 63) (hrest : EndsNumber rest) :
    takeSigned 4 ((if y < 0 then '-' else '+') :: (ds ++ rest)) = some (y, rest) := by
  have hvalue : value ds < bitBound 63 := h.value.symm ▸ hy
  have htake : takeDigits (ds ++ rest) = some (y.natAbs, rest) := by
    rw [takeDigits, takeNumber_append h.isDigit h.ne_nil _ hvalue hrest, h.value]
    rw [List.length_append]
    omega
  split
  · rename_i hneg
    have hvalue : -(y.natAbs : Int) = y := by omega
    simp only [takeSigned, htake, Option.map_some, hvalue]
  · rename_i hpos
    have hvalue : (y.natAbs : Int) = y := by omega
    simp only [takeSigned, htake, Option.map_some, hvalue]

/-- Behind the blanks of a signed number come its sign and digits that show its size. -/
theorem dropWhile_signedNumber {y : Int} {width places : Nat} (hy : y.natAbs < 10 ^ width)
    (hwidth : width ≠ 0) (hplaces : places ≤ width + 1) (filling : Filling) (rest : List Char) :
    ∃ ds, (signedNumber filling places y ++ rest).dropWhile Text.isBlank =
        (if y < 0 then '-' else '+') :: (ds ++ rest) ∧ Shows ds width y.natAbs := by
  have hshows := shows_digits hy hwidth
  have hsign : Text.isBlank (if y < 0 then '-' else '+') = false := by
    split <;> decide
  cases filling with
  | nothing => exact ⟨_, dropWhile_isBlank_cons hsign _, hshows⟩
  | zeros => exact ⟨_, dropWhile_isBlank_cons hsign _, hshows.zeros (by omega)⟩
  | spaces =>
      refine ⟨_, ?_, hshows⟩
      change (List.replicate _ ' ' ++ _ ++ rest).dropWhile Text.isBlank = _
      rw [List.append_assoc, dropWhile_isBlank_spaces]
      exact dropWhile_isBlank_cons hsign _

theorem reads_yearNumber (d : Date) (filling : Filling) :
    Reads .year (yearNumber filling d.year) d.year := by
  intro rest hrest
  have hbounds := d.year_bounds
  have hbound : d.year.natAbs < bitBound 63 := by
    rw [bitBound]
    omega
  rw [takePart, yearNumber]
  split
  · rename_i h
    simp only [Bool.and_eq_true, decide_eq_true_eq] at h
    have hfour : d.year.toNat < 10 ^ 4 := by omega
    obtain ⟨ds, hds, hshows⟩ := dropWhile_filledText (shows_digits hfour (by decide)) filling rest
    rw [hds, takeSigned_digits hshows (by omega) hrest, Int.toNat_of_nonneg h.1]
  · have hsix : d.year.natAbs < 10 ^ 6 := by omega
    have hplaces : 5 ≤ 6 + 1 := by decide
    obtain ⟨ds, hds, hshows⟩ := dropWhile_signedNumber hsix (by decide) hplaces filling rest
    rw [hds, takeSigned_sign hshows hbound hrest]

end DatePattern
end WorkItems
