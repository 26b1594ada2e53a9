import WorkItems.Proofs.Decimal.Layout
import WorkItems.Yaml.Data.Printer
/-!
# Integers as plain scalars

The decimal digits of an integer are read as that integer: they are no word, they do not start with
a base sign or with a zero in front of others, and their value is what was written.
-/

namespace WorkItems

namespace Yaml

open Decimal

theorem digitIn?_ten {c : Char} (h : isDigit c = true) : digitIn? 10 c = some (digitValue c) := by
  simp only [isDigit, Bool.and_eq_true, decide_eq_true_eq, Char.le_def, UInt32.le_iff_toNat_le] at h
  have h57 : c.toNat ≤ 57 := h.2
  have hif : ('0' ≤ c && c ≤ '9') = true := by
    simpa [Char.le_def, UInt32.le_iff_toNat_le] using h
  have hzero : '0'.toNat = 48 := rfl
  simp only [digitIn?, hif, if_true, Option.filter_some, digitValue, hzero]
  rw [if_pos]
  simp
  omega

theorem foldlM_digits {cs : List Char} (h : ∀ c ∈ cs, isDigit c = true) :
    ∀ start, cs.foldlM (fun n c => (digitIn? 10 c).map (n * 10 + ·)) start =
      some (cs.foldl (fun n c => n * 10 + digitValue c) start) := by
  induction cs with
  | nil => exact fun _ => rfl
  | cons c cs ih =>
      intro start
      rw [List.foldlM_cons, digitIn?_ten (h c (List.mem_cons_self ..)), List.foldl_cons]
      exact ih (fun d hd => h d (List.mem_cons_of_mem _ hd)) _

theorem readInBase?_digits {cs : List Char} (h : ∀ c ∈ cs, isDigit c = true) (hne : cs ≠ []) :
    readInBase? 10 cs = some (value cs) := by
  have hempty : cs.isEmpty = false := by simpa using hne
  rw [readInBase?, hempty, if_neg (by simp), foldlM_digits h, value]

/-- Digits are no base sign. -/
theorem readBased?_digits {cs : List Char} (h : ∀ c ∈ cs, isDigit c = true) :
    readBased? cs = none := by
  unfold readBased?
  split
  · exact absurd (h 'x' (by simp)) (by decide)
  · exact absurd (h 'o' (by simp)) (by decide)
  · exact absurd (h 'b' (by simp)) (by decide)
  · rfl

/-- The digits of a number are a zero, or start with another digit. -/
theorem digits_eq (n : Nat) :
    digits n = ['0'] ∨ ∃ d ds, digits n = d :: ds ∧ d ≠ '0' ∧ isDigit d = true := by
  by_cases hn : n = 0
  · exact .inl (by rw [hn]; rfl)
  · refine .inr ?_
    cases hds : digits n with
    | nil => exact absurd hds (digits_ne_nil n)
    | cons d ds =>
        have hhead := head?_digits_ne_zero hn
        rw [hds] at hhead
        exact ⟨d, ds, rfl, fun hd => hhead (by rw [hd]; rfl),
          isDigit_of_mem_digits (n := n) (by rw [hds]; exact List.mem_cons_self ..)⟩

theorem isDigit_ne {c d : Char} (h : isDigit c = true) (hd : isDigit d = false) : c ≠ d := by
  rintro rfl
  exact absurd h (by simp [hd])

theorem hasLeadingZero_digits (n : Nat) : hasLeadingZero (digits n) = false := by
  rcases digits_eq n with h | ⟨d, ds, h, hzero, hd⟩
  · rw [h]
    rfl
  · rw [h]
    simp [hasLeadingZero, hzero, isDigit_ne hd (d := '-') rfl, isDigit_ne hd (d := '+') rfl]

theorem hasLeadingZero_minus (n : Nat) : hasLeadingZero ('-' :: digits n) = false := by
  rcases digits_eq n with h | ⟨d, ds, h, hzero, hd⟩
  · rw [h]
    rfl
  · rw [h]
    simp [hasLeadingZero, hzero]

theorem readNatural?_digits (n : Nat) : readNatural? (digits n) = some n := by
  have hdigits : ∀ c ∈ digits n, isDigit c = true := fun c => isDigit_of_mem_digits
  have hbased := readBased?_digits hdigits
  have hvalue := readInBase?_digits hdigits (digits_ne_nil n)
  have hzero := hasLeadingZero_digits n
  rw [value_digits] at hvalue
  cases hds : digits n with
  | nil => exact absurd hds (digits_ne_nil n)
  | cons d ds =>
      rw [hds] at hdigits hbased hvalue hzero
      have hplus : d ≠ '+' := isDigit_ne (hdigits d (List.mem_cons_self ..)) rfl
      simp [readNatural?, hplus, hbased, hvalue, hzero]

theorem readNatural?_minus (n : Nat) : readNatural? ('-' :: digits n) = none := by
  have hminus : digitIn? 10 '-' = none := by decide
  simp [readNatural?, readBased?, hasLeadingZero_minus, readInBase?, hminus]

theorem readNegated?_minus (n : Nat) : readNegated? ('-' :: digits n) = some n := by
  have hdigits : ∀ c ∈ digits n, isDigit c = true := fun c => isDigit_of_mem_digits
  simp [readNegated?, readBased?_digits hdigits, hasLeadingZero_digits,
    readInBase?_digits hdigits (digits_ne_nil n), value_digits]

theorem readInteger?_signed (i : Int) : readInteger? (signed i) = some i := by
  rw [signed]
  split
  · rename_i hneg
    have hi : -(i.natAbs : Int) = i := by omega
    rw [readInteger?, readNatural?_minus, readNegated?_minus]
    exact congrArg some hi
  · rename_i hneg
    have hi : (i.natAbs : Int) = i := by omega
    rw [readInteger?, readNatural?_digits]
    exact congrArg some hi

/-- Starts like a number. -/
theorem head?_signed (i : Int) : ∃ c cs, signed i = c :: cs ∧ (isDigit c = true ∨ c = '-') := by
  rw [signed]
  split
  · exact ⟨_, _, rfl, .inr rfl⟩
  · cases hds : digits i.natAbs with
    | nil => exact absurd hds (digits_ne_nil _)
    | cons d ds =>
        exact ⟨d, ds, rfl, .inl (isDigit_of_mem_digits (n := i.natAbs)
          (by rw [hds]; exact List.mem_cons_self ..))⟩

/-- What starts like a number is no word. -/
theorem not_word {c : Char} (cs : List Char) (h : isDigit c = true ∨ c = '-') :
    isNullText (c :: cs) = false ∧ readBool? (c :: cs) = none := by
  have hne : ∀ d, isDigit d = false → d ≠ '-' → d ≠ c := by
    rintro d hd hminus rfl
    rcases h with h | h
    · exact absurd h (by simp [hd])
    · exact hminus h
  have h1 := hne '~' (by decide) (by decide)
  have h2 := hne 'n' (by decide) (by decide)
  have h3 := hne 'N' (by decide) (by decide)
  have h4 := hne 't' (by decide) (by decide)
  have h5 := hne 'T' (by decide) (by decide)
  have h6 := hne 'f' (by decide) (by decide)
  have h7 := hne 'F' (by decide) (by decide)
  constructor <;> simp [isNullText, readBool?, h1, h2, h3, h4, h5, h6, h7]

theorem resolve_signed {i : Int} {n : Number} (hsize : isIntegerSized i = true)
    (hn : Number.ofInt? i = some n) : resolve (signed i) = .number n := by
  obtain ⟨c, cs, hcs, hc⟩ := head?_signed i
  have hinteger := readInteger?_signed i
  obtain ⟨hnull, hbool⟩ := not_word cs hc
  have hfilter : (readInteger? (signed i)).filter isIntegerSized = some i := by
    rw [hinteger, Option.filter_some, if_pos hsize]
  rw [hcs] at hfilter ⊢
  simp [resolve, hnull, hbool, hfilter, hn]

/-! ## Numbers of 64 bits -/

theorem isIntegerSized_of_64 {i : Int} (hlow : Int64.minValue.toInt ≤ i)
    (hhigh : i < UInt64.size) : isIntegerSized i = true := by
  have hmin : Int64.minValue.toInt = -2 ^ 63 := Int64.toInt_minValue
  have hsize : (UInt64.size : Int) = 2 ^ 64 := rfl
  have h127 : (bitBound 127 : Int) = 2 ^ 127 := rfl
  have h128 : (bitBound 128 : Int) = 2 ^ 128 := rfl
  have hleft : -(bitBound 127 : Int) ≤ i := by omega
  have hright : i < bitBound 128 := by omega
  simp [isIntegerSized, hleft, hright]

theorem resolve_int (i : Int64) : resolve (signed i.toInt) = .number (.int i) := by
  have hlow := i.minValue_le_toInt
  have hhigh := i.toInt_le
  have hmax : Int64.maxValue.toInt < UInt64.size := by decide
  refine resolve_signed (isIntegerSized_of_64 hlow (by omega)) ?_
  rw [Number.ofInt?, if_pos ⟨hlow, hhigh⟩, Int64.ofInt_toInt]

/-- Unsigned numbers are for what does not fit into a signed one. -/
theorem resolve_uint {u : UInt64} (h : Int64.maxValue.toInt < u.toNat) :
    resolve (digits u.toNat) = .number (.uint u) := by
  have hnat : digits u.toNat = signed (u.toNat : Int) := by
    rw [signed, if_neg (by omega), Int.natAbs_natCast]
  have hlt : u.toNat < UInt64.size := u.toNat_lt
  have hlow : Int64.minValue.toInt ≤ (u.toNat : Int) := by
    have hmin : Int64.minValue.toInt ≤ Int64.maxValue.toInt := by decide
    omega
  rw [hnat]
  refine resolve_signed (isIntegerSized_of_64 hlow (by omega)) ?_
  rw [Number.ofInt?, if_neg (by omega), if_pos ⟨by omega, by simpa using hlt⟩]
  simp

end Yaml
end WorkItems
