import WorkItems.Proofs.Decimal.Layout
import WorkItems.Proofs.Decimal.Shortest
/-!
# Written numbers are read back

The text of a finite number is the shortest decimal that reads back, laid out with a point and maybe
an exponent. A reader gets from every layout a decimal that is the same rational number, and so the
word that the decimal was made for. Before that it looks how far the first digit is from the point,
which never decides about a finite number.
-/

namespace WorkItems.Decimal

/-! ## Values of digits -/

theorem digitValue_pos {c : Char} (h : isDigit c = true) (hc : c ≠ '0') : 0 < digitValue c := by
  simp only [isDigit, Bool.and_eq_true, decide_eq_true_eq, Char.le_def, UInt32.le_iff_toNat_le] at h
  have hle : 48 ≤ c.toNat := h.1
  have hzero : '0'.toNat = 48 := rfl
  have hne : c.toNat ≠ 48 := fun heq => hc (Char.toNat_inj.1 heq)
  rw [digitValue, hzero]
  omega

theorem pow_le_value {c : Char} {cs : List Char} (h : isDigit c = true) (hc : c ≠ '0') :
    10 ^ cs.length ≤ value (c :: cs) := by
  rw [value_cons]
  exact Nat.le_add_right_of_le (Nat.le_mul_of_pos_left _ (digitValue_pos h hc))

theorem value_replicate_zero (n : Nat) : value (List.replicate n '0') = 0 := by
  induction n with
  | zero => rfl
  | succ n ih =>
      rw [List.replicate_succ, value_cons, ih, show digitValue '0' = 0 from rfl, Nat.zero_mul]

/-- Zeros in front do not count. -/
theorem value_dropWhile_zero (cs : List Char) : value (cs.dropWhile (· == '0')) = value cs := by
  induction cs with
  | nil => rfl
  | cons c cs ih =>
      rw [List.dropWhile_cons]
      split
      · rename_i hc
        rw [beq_iff_eq.1 hc, value_cons, show digitValue '0' = 0 from rfl, Nat.zero_mul,
          Nat.zero_add, ih]
      · rfl

/-! ## The nearest word of what was read -/

/-- The decimal that the parts are. -/
def Parts.numeral (p : Parts) : Numeral := ⟨value (p.whole ++ p.frac), p.exponent - p.frac.length⟩

/-- How far a number of digits can be moved, if it is neither very small nor very large. -/
theorem exponent_bounds {c : Char} {cs : List Char} {exponent : Int}
    (hdigits : ∀ d ∈ c :: cs, isDigit d = true) (hc : c ≠ '0')
    (hlow : (10 : ℚ) ^ (-400 : Int) ≤ value (c :: cs) * 10 ^ exponent)
    (hhigh : value (c :: cs) * (10 : ℚ) ^ exponent < 10 ^ (400 : Int)) :
    -400 < ((cs.length + 1 : Nat) : Int) + exponent ∧ (cs.length : Int) + exponent < 400 := by
  have hten : (1 : ℚ) < 10 := by norm_num
  have hscale : (0 : ℚ) < 10 ^ exponent := by positivity
  have hpow : ∀ n : Nat, ((10 ^ n : Nat) : ℚ) * 10 ^ exponent = 10 ^ ((n : Int) + exponent) := by
    intro n
    rw [zpow_add₀ (by norm_num), zpow_natCast]
    push_cast
    rfl
  have hleast : ((10 ^ cs.length : Nat) : ℚ) ≤ value (c :: cs) :=
    Nat.cast_le.2 (pow_le_value (hdigits c List.mem_cons_self) hc)
  have hmost : (value (c :: cs) : ℚ) < ((10 ^ (cs.length + 1) : Nat) : ℚ) :=
    Nat.cast_lt.2 (value_lt_pow hdigits)
  constructor
  · refine (zpow_lt_zpow_iff_right₀ hten).1 (lt_of_le_of_lt hlow ?_)
    rw [← hpow]
    exact mul_lt_mul_of_pos_right hmost hscale
  · refine (zpow_lt_zpow_iff_right₀ hten).1 (lt_of_le_of_lt ?_ hhigh)
    rw [← hpow]
    exact mul_le_mul_of_nonneg_right hleast (le_of_lt hscale)

/-- Parts that are as much as a decimal have its nearest word. -/
theorem Parts.nearest_eq {p : Parts} {d : Numeral} {w : Nat}
    (hdigits : ∀ c ∈ p.whole ++ p.frac, isDigit c = true) (hvalue : p.numeral.rational = d.rational)
    (hd : d.nearest = w) (hw : w ≠ 0) (hfinite : w < infinityWord) : p.nearest = w := by
  obtain ⟨hlow, hhigh⟩ := Numeral.rational_bounds hd hw hfinite
  have hsignificant := value_dropWhile_zero (p.whole ++ p.frac)
  have hpositive : (0 : ℚ) < d.rational := lt_of_lt_of_le (by positivity) hlow
  rw [← hvalue, numeral, Numeral.rational, ← hsignificant] at hlow hhigh hpositive
  cases hcs : (p.whole ++ p.frac).dropWhile (· == '0') with
  | nil =>
      rw [hcs, value_nil, Nat.cast_zero, zero_mul] at hpositive
      exact absurd hpositive (lt_irrefl 0)
  | cons c cs =>
      have hmem : ∀ e ∈ c :: cs, isDigit e = true := fun e he =>
        hdigits e ((List.dropWhile_suffix _).subset (hcs ▸ he))
      have hc : c ≠ '0' := by
        have hhead := List.head?_dropWhile_not (· == '0') (p.whole ++ p.frac)
        rw [hcs] at hhead
        simpa using hhead
      rw [hcs] at hlow hhigh
      generalize hexponent : p.exponent - (p.frac.length : Int) = exponent at hlow hhigh
      obtain ⟨hbelow, habove⟩ : -400 < ((cs.length + 1 : Nat) : Int) + exponent ∧
          (cs.length : Int) + exponent < 400 := exponent_bounds hmem hc hlow hhigh
      have hnear : ¬exponent + ((c :: cs).length : Int) < -400 := by
        rw [List.length_cons]
        omega
      have hfar : ¬400 < exponent + ((c :: cs).length : Int) := by
        rw [List.length_cons]
        omega
      rw [← hd, Parts.nearest]
      simp only [hcs, hexponent, hnear, hfar, List.isEmpty_cons, decide_false, Bool.or_self,
        Bool.false_eq_true, if_false]
      refine Numeral.nearest_congr ?_
      rw [← hvalue, numeral, Numeral.rational, Numeral.rational, ← hsignificant, hcs, hexponent]

/-! ## Parts of a text -/

theorem takeWhile_digits {ds : List Char} (tail : List Char) (hds : ∀ c ∈ ds, isDigit c = true)
    (htail : ∀ c, tail.head? = some c → isDigit c = false) :
    (ds ++ tail).takeWhile isDigit = ds ∧ (ds ++ tail).dropWhile isDigit = tail := by
  rw [List.takeWhile_append_of_pos hds, List.dropWhile_append_of_pos hds]
  cases tail with
  | nil => simp
  | cons c cs =>
      have hc := htail c rfl
      simp [hc]

/-- Digits with a point among or behind them. -/
theorem readParts?_point (whole frac tail : List Char) (hwhole : ∀ c ∈ whole, isDigit c = true)
    (hfrac : ∀ c ∈ frac, isDigit c = true) (htail : ∀ c, tail.head? = some c → isDigit c = false)
    (hne : whole ≠ []) :
    readParts? (whole ++ '.' :: (frac ++ tail)) =
      (readExponent? tail).map fun e => ⟨whole, frac, e⟩ := by
  obtain ⟨hbefore, hpoint⟩ := takeWhile_digits ('.' :: (frac ++ tail)) hwhole
    fun c hc => by cases hc; decide
  obtain ⟨hbehind, hrest⟩ := takeWhile_digits tail hfrac htail
  simp only [readParts?, hbefore, hpoint, hbehind, hrest]
  simp [hne]

/-- Digits without a point. -/
theorem readParts?_whole (whole tail : List Char) (hwhole : ∀ c ∈ whole, isDigit c = true)
    (htail : ∀ c, tail.head? = some c → isDigit c = false ∧ c ≠ '.') (hne : whole ≠ []) :
    readParts? (whole ++ tail) = (readExponent? tail).map fun e => ⟨whole, [], e⟩ := by
  obtain ⟨hbefore, hrest⟩ := takeWhile_digits tail hwhole fun c hc => (htail c hc).1
  cases tail with
  | nil =>
      simp only [readParts?, hbefore, hrest]
      simp [hne]
  | cons c cs =>
      have hpoint := (htail c rfl).2
      simp only [readParts?, hbefore, hrest]
      simp [hne, hpoint]

theorem readNat?_digits (n : Nat) : readNat? (digits n) = some n := by
  have hempty : (digits n).isEmpty = false := by simpa using digits_ne_nil n
  have hall : (digits n).all isDigit = true := List.all_eq_true.2 fun c => isDigit_of_mem_digits
  rw [readNat?, hempty, hall, value_digits]
  rfl

theorem readSign_of_isDigit {c : Char} (cs : List Char) (h : isDigit c = true) :
    readSign (c :: cs) = (false, c :: cs) := by
  have hne : c ≠ '-' ∧ c ≠ '+' := by
    constructor <;> (rintro rfl; exact absurd h (by decide))
  simp [readSign, hne]

theorem readSign_digits (n : Nat) : readSign (digits n) = (false, digits n) := by
  cases hds : digits n with
  | nil => exact absurd hds (digits_ne_nil n)
  | cons c cs => exact readSign_of_isDigit cs (isDigit_of_mem_digits (hds ▸ List.mem_cons_self))

theorem readExponent?_signed (i : Int) : readExponent? ('e' :: signed i) = some i := by
  have hletter : ('e' == 'e' || 'e' == 'E') = true := rfl
  rw [readExponent?, if_pos hletter]
  by_cases hneg : i < 0
  · have hi : -(i.natAbs : Int) = i := by omega
    simp only [signed, if_pos hneg, readSign, readNat?_digits, if_true]
    exact congrArg some hi
  · have hi : (i.natAbs : Int) = i := by omega
    simp only [signed, if_neg hneg, readSign_digits, readNat?_digits, Bool.false_eq_true, if_false]
    exact congrArg some hi

/-! ## The text of a finite number -/

/-- An unsigned text that is read as the finite number with this word. It is not an integer. -/
structure IsFraction (w : Nat) (cs : List Char) : Prop where
  starts : ∃ d ds, cs = d :: ds ∧ isDigit d = true
  fractional : '.' ∈ cs ∨ 'e' ∈ cs
  reads : ∃ p, readParts? cs = some p ∧ p.nearest = w

theorem mem_digits_append_zeros {n k : Nat} {c : Char}
    (h : c ∈ digits n ++ List.replicate k '0') : isDigit c = true := by
  rcases List.mem_append.1 h with h | h
  · exact isDigit_of_mem_digits h
  · rw [List.eq_of_mem_replicate h]
    decide

theorem exists_digits_cons (n : Nat) : ∃ d ds, digits n = d :: ds ∧ isDigit d = true := by
  cases hds : digits n with
  | nil => exact absurd hds (digits_ne_nil n)
  | cons d ds => exact ⟨d, ds, rfl, isDigit_of_mem_digits (hds ▸ List.mem_cons_self)⟩

section Layouts

variable {layout : Layout} {d : Numeral} {w : Nat}

/-- Parts with the digits and the exponent of the decimal itself. -/
theorem Parts.nearest_of_numeral {p : Parts} (hdigits : ∀ c ∈ p.whole ++ p.frac, isDigit c = true)
    (hp : p.numeral = d) (hd : d.nearest = w) (hw : w ≠ 0) (hfinite : w < infinityWord) :
    p.nearest = w :=
  nearest_eq hdigits (congrArg Numeral.rational hp) hd hw hfinite

/-- Digits around a point are a fraction. -/
theorem isFraction_point {whole frac : List Char} (hdigits : ∀ c ∈ whole ++ frac, isDigit c = true)
    (hwhole : whole ≠ []) (hnearest : (Parts.mk whole frac 0).nearest = w) :
    IsFraction w (whole ++ '.' :: frac) := by
  obtain ⟨hleft, hright⟩ := List.forall_mem_append.1 hdigits
  obtain ⟨c, cs, rfl⟩ := List.exists_cons_of_ne_nil hwhole
  refine ⟨⟨c, _, rfl, hleft c List.mem_cons_self⟩, .inl (by simp), _, ?_, hnearest⟩
  have hread := readParts?_point (c :: cs) frac [] hleft hright (by simp) (by simp)
  rwa [List.append_nil] at hread

/-! The point of a decimal stands before its digits, among them or behind them. -/

section Point

variable (hd : d.nearest = w) (hw : w ≠ 0) (hfinite : w < infinityWord)
include hd hw hfinite

theorem isFraction_digitsBehind {zeros : Nat}
    (hzeros : (zeros : Int) = -((digits d.digits).length + d.exponent)) :
    IsFraction w ('0' :: '.' :: List.replicate zeros '0' ++ digits d.digits) := by
  have hzero : ∀ c ∈ List.replicate zeros '0', isDigit c = true := by
    intro c hc
    rw [List.eq_of_mem_replicate hc]
    decide
  have hdigits : ∀ c ∈ '0' :: (List.replicate zeros '0' ++ digits d.digits), isDigit c = true :=
    List.forall_mem_cons.2
      ⟨by decide, List.forall_mem_append.2 ⟨hzero, fun c => isDigit_of_mem_digits⟩⟩
  have hvalue : value ('0' :: (List.replicate zeros '0' ++ digits d.digits)) = d.digits := by
    rw [value_cons, value_append, value_replicate_zero, value_digits]
    simp [digitValue]
  show IsFraction w (['0'] ++ '.' :: (List.replicate zeros '0' ++ digits d.digits))
  refine isFraction_point hdigits (List.cons_ne_nil _ _)
    (Parts.nearest_of_numeral hdigits ?_ hd hw hfinite)
  simp only [Parts.numeral, List.singleton_append, hvalue, List.length_append,
    List.length_replicate]
  congr 1
  push_cast
  omega

theorem isFraction_digitsAround {k : Nat} (hpos : k ≠ 0)
    (hk : (k : Int) = (digits d.digits).length + d.exponent) (hlt : k < (digits d.digits).length) :
    IsFraction w ((digits d.digits).take k ++ '.' :: (digits d.digits).drop k) := by
  have hdigits : ∀ c ∈ (digits d.digits).take k ++ (digits d.digits).drop k, isDigit c = true := by
    rw [List.take_append_drop]
    exact fun c => isDigit_of_mem_digits
  have hwhole : (digits d.digits).take k ≠ [] := by
    rw [Ne, List.take_eq_nil_iff]
    exact not_or.2 ⟨hpos, digits_ne_nil _⟩
  refine isFraction_point hdigits hwhole (Parts.nearest_of_numeral hdigits ?_ hd hw hfinite)
  simp only [Parts.numeral, List.take_append_drop, value_digits, List.length_drop]
  congr 1
  omega

theorem isFraction_digitsBefore {zeros : Nat} (hexponent : d.exponent = zeros) :
    IsFraction w (digits d.digits ++ List.replicate zeros '0' ++ '.' :: ['0']) := by
  have hdigits : ∀ c ∈ digits d.digits ++ List.replicate zeros '0' ++ ['0'], isDigit c = true :=
    List.forall_mem_append.2
      ⟨fun c => mem_digits_append_zeros, List.forall_mem_singleton.2 (by decide)⟩
  have hvalue : value (digits d.digits ++ List.replicate zeros '0' ++ ['0']) =
      d.digits * 10 ^ zeros * 10 := by
    rw [value_append, value_append, value_digits, value_replicate_zero, List.length_replicate]
    simp [value_cons, value_nil, digitValue]
  refine isFraction_point hdigits (by simp [digits_ne_nil])
    (Parts.nearest_eq hdigits ?_ hd hw hfinite)
  simp only [Parts.numeral, Numeral.rational, hvalue, hexponent, List.length_singleton]
  rw [zpow_natCast]
  push_cast
  norm_num
  ring

theorem isFraction_positional (hend : layout.wholeEnd = ".0".toList) :
    IsFraction w (positional layout (digits d.digits) ((digits d.digits).length + d.exponent)) := by
  rw [positional]
  split
  · exact isFraction_digitsBehind hd hw hfinite (by omega)
  · split
    · exact isFraction_digitsAround hd hw hfinite (by omega) (by omega) (by omega)
    · rw [hend]
      exact isFraction_digitsBefore hd hw hfinite (by omega)

end Point

theorem isFraction_scientific (hsign : layout.exponentSign = []) (hd : d.nearest = w) (hw : w ≠ 0)
    (hfinite : w < infinityWord) :
    IsFraction w (scientific layout (digits d.digits) ((digits d.digits).length + d.exponent)) := by
  have hdigit : ∀ c ∈ digits d.digits, isDigit c = true := fun c => isDigit_of_mem_digits
  obtain ⟨c, cs, hcs, hc⟩ := exists_digits_cons d.digits
  have hvalue := value_digits d.digits
  rw [hcs] at hdigit hvalue
  have hrest : ∀ e ∈ cs, isDigit e = true := fun e he => hdigit e (List.mem_cons_of_mem _ he)
  have hnoSign : (if (((digits d.digits).length : Int) + d.exponent) - 1 < 0 then []
      else layout.exponentSign) = [] := by
    rw [hsign]
    split <;> rfl
  have hnumeral : ∀ exponent : Int, exponent = ((c :: cs).length : Int) + d.exponent - 1 →
      (Parts.mk [c] cs exponent).numeral = d := by
    intro exponent hexponent
    simp only [Parts.numeral, List.singleton_append, hvalue]
    rw [List.length_cons] at hexponent
    congr 1
    omega
  simp only [scientific, hnoSign]
  rw [hcs]
  simp only [List.take_succ_cons, List.take_zero, List.drop_succ_cons, List.drop_zero,
    List.nil_append, List.cons_append]
  generalize hexponent : (((c :: cs).length : Int) + d.exponent) - 1 = exponent
  have hletter : ∀ e, ('e' :: signed exponent).head? = some e → isDigit e = false ∧ e ≠ '.' := by
    intro e he
    cases he
    decide
  cases cs with
  | nil =>
      refine ⟨⟨c, _, rfl, hc⟩, .inr (by simp), ⟨[c], [], exponent⟩, ?_, ?_⟩
      · have hread := readParts?_whole [c] _ (by simpa using hc) hletter (by simp)
        rw [readExponent?_signed] at hread
        exact hread
      · exact Parts.nearest_of_numeral (by simpa using hc) (hnumeral _ hexponent.symm) hd hw hfinite
  | cons e es =>
      refine ⟨⟨c, _, rfl, hc⟩, .inl (by simp), ⟨[c], e :: es, exponent⟩, ?_, ?_⟩
      · have hread := readParts?_point [c] _ _ (by simpa using hc) hrest
          (fun e he => (hletter e he).1) (by simp)
        rw [readExponent?_signed] at hread
        simpa using hread
      · exact Parts.nearest_of_numeral (by simpa using hdigit) (hnumeral _ hexponent.symm) hd hw
          hfinite

/-- A layout that ends whole numbers with `.0` writes a finite number so that it is read back. -/
theorem isFraction_finite (hend : layout.wholeEnd = ".0".toList) (hsign : layout.exponentSign = [])
    (hw : w ≠ 0) (hfinite : w < infinityWord) : IsFraction w (layout.finite w) := by
  have hd := nearest_shortest layout.tie hw hfinite
  simp only [Layout.finite]
  split
  · exact isFraction_positional hd hw hfinite hend
  · split
    · exact isFraction_positional hd hw hfinite hend
    · exact isFraction_scientific hsign hd hw hfinite

theorem isFraction_zero (hend : layout.wholeEnd = ".0".toList) :
    IsFraction 0 ('0' :: layout.wholeEnd) := by
  rw [hend]
  exact ⟨⟨'0', _, rfl, by decide⟩, .inl (by decide), ⟨['0'], ['0'], 0⟩, by decide, by decide⟩

end Layouts

/-! ## Signs -/

section Signs

variable {w : Nat} {cs : List Char}

/-- What starts with a digit is no name. -/
theorem readFloat?_of_isDigit {d : Char} (ds : List Char) (hd : isDigit d = true) :
    (readFloat? (d :: ds) = (readParts? (d :: ds)).map fun p => ofWord false p.nearest) ∧
      readFloat? ('-' :: d :: ds) = (readParts? (d :: ds)).map fun p => ofWord true p.nearest := by
  have hletter : lowerAscii d ≠ 'i' ∧ lowerAscii d ≠ 'n' := by
    simp only [isDigit, Bool.and_eq_true, decide_eq_true_eq] at hd
    have hlower : lowerAscii d = d := by
      rw [lowerAscii, if_neg]
      simp only [Bool.and_eq_true, decide_eq_true_eq, not_and]
      exact fun hle => absurd (Char.le_trans hle hd.2) (by decide)
    rw [hlower]
    constructor <;> (rintro rfl; exact absurd hd.2 (by decide))
  have hname : ∀ name : List Char, name.head? = some 'i' ∨ name.head? = some 'n' →
      ((d :: ds).map lowerAscii == name) = false := by
    intro name hhead
    rw [beq_eq_false_iff_ne]
    rintro rfl
    rcases hhead with hhead | hhead
    · exact hletter.1 (Option.some.inj hhead)
    · exact hletter.2 (Option.some.inj hhead)
  have hinf := hname "inf".toList (.inl rfl)
  have hinfinity := hname "infinity".toList (.inl rfl)
  have hnan := hname "nan".toList (.inr rfl)
  constructor
  · simp only [readFloat?, readSign_of_isDigit ds hd, hinf, hinfinity, hnan, Bool.or_self,
      Bool.false_eq_true, if_false]
  · simp only [readFloat?, readSign, hinf, hinfinity, hnan, Bool.or_self, Bool.false_eq_true,
      if_false]

theorem IsFraction.readFloat? (h : IsFraction w cs) (negative : Bool) :
    Decimal.readFloat? (if negative then '-' :: cs else cs) = some (ofWord negative w) := by
  obtain ⟨d, ds, rfl, hd⟩ := h.starts
  obtain ⟨p, hp, hnearest⟩ := h.reads
  obtain ⟨hplain, hminus⟩ := readFloat?_of_isDigit ds hd
  cases negative with
  | false => rw [if_neg (by simp), hplain, hp, Option.map_some, hnearest]
  | true => rw [if_pos rfl, hminus, hp, Option.map_some, hnearest]

end Signs

end WorkItems.Decimal
