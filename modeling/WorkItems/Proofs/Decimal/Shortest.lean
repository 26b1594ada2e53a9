import WorkItems.Decimal.Reader
import WorkItems.Proofs.Decimal.Digits
import WorkItems.Proofs.Decimal.Nearest
/-!
# The shortest decimal reads back

`shortest` is a decimal whose nearest number is the one it was made for: the candidates are filtered
by that, and the decimal that is left if there is none is the number itself. It stays so when zeros
at the end of the digits go into the exponent. A reader that gives up numbers far outside of the
range is right to do so.
-/

namespace WorkItems.Decimal

/-- The number that a decimal is. -/
def Numeral.rational (d : Numeral) : ℚ := d.digits * 10 ^ d.exponent

theorem Numeral.rational_eq_div (d : Numeral) :
    d.rational = (d.digits * 10 ^ d.exponent.toNat : Nat) / (10 ^ (-d.exponent).toNat : Nat) := by
  rw [Numeral.rational, Nat.cast_mul, mul_div_assoc]
  congr 1
  exact_mod_cast zpow_eq_div 10 (by decide) d.exponent

/-- The nearest word of a decimal depends only on the number that it is. -/
theorem Numeral.nearest_eq_of_rational {d : Numeral} {num den : Nat} (hden : 0 < den)
    (h : d.rational = num / den) : d.nearest = Decimal.nearest num den := by
  have hpow : 0 < 10 ^ (-d.exponent).toNat := Nat.pow_pos (by decide)
  refine nearest_congr hpow hden ?_
  rw [d.rational_eq_div, div_eq_div_iff (Nat.cast_ne_zero.2 (Nat.pos_iff_ne_zero.1 hpow))
    (Nat.cast_ne_zero.2 (Nat.pos_iff_ne_zero.1 hden))] at h
  exact_mod_cast h

theorem Numeral.nearest_congr {d d' : Numeral} (h : d.rational = d'.rational) :
    d.nearest = d'.nearest :=
  nearest_eq_of_rational (Nat.pow_pos (by decide)) (h.trans d'.rational_eq_div)

/-! ## The shortest decimal -/

theorem Numeral.rational_strip (fuel : Nat) (d : Numeral) :
    (d.strip fuel).rational = d.rational := by
  induction fuel generalizing d with
  | zero => rfl
  | succ fuel ih =>
      rw [strip]
      split
      · rename_i hzero
        rw [ih, rational, rational, zpow_add₀ (by norm_num)]
        have htenth : d.digits = 10 * (d.digits / 10) :=
          (Nat.mul_div_cancel' (Nat.dvd_of_mod_eq_zero hzero.2)).symm
        have hcast : (d.digits : ℚ) = 10 * (d.digits / 10 : Nat) := by exact_mod_cast htenth
        rw [hcast, zpow_one]
        ring
      · rfl

theorem rational_exact (m : Magnitude) : (exact m).rational = m.mantissa * 2 ^ m.exponent := by
  have hexponent : (2 : ℚ) ^ m.exponent =
      ((2 ^ m.exponent.toNat : Nat) : ℚ) / ((2 ^ (-m.exponent).toNat : Nat) : ℚ) := by
    exact_mod_cast zpow_eq_div 2 two_pos m.exponent
  have hten : (10 : ℚ) ^ (-((-m.exponent).toNat : Int)) =
      1 / (2 ^ (-m.exponent).toNat * 5 ^ (-m.exponent).toNat) := by
    rw [zpow_neg, zpow_natCast, ← mul_pow]
    norm_num
  rw [exact, Numeral.rational, hexponent, hten]
  push_cast
  have hfive : (5 : ℚ) ^ (-m.exponent).toNat ≠ 0 := by positivity
  rw [mul_one_div, mul_div_mul_right _ _ hfive, mul_div_assoc]

/-- What the shortest decimal of a finite number is read as. -/
theorem nearest_shortest (tie : Tie) {w : Nat} (hw : w ≠ 0) (hfinite : w < infinityWord) :
    (shortest tie w).nearest = w := by
  have hexact : (exact (magnitude w)).nearest = w := by
    refine (Numeral.nearest_eq_of_rational (Nat.two_pow_pos _) ?_).trans
      (nearest_magnitude hw hfinite)
    rw [rational_exact]
    exact (fraction_value _).symm
  have hreading : ∀ {num den : Nat} {s : Int} {d : Numeral}, d ∈ readingBack w num den s →
      d.nearest = w :=
    fun hd => beq_iff_eq.1 (List.mem_filter.1 hd).2
  have hcandidate : ∀ {num den k : Nat} {d : Numeral},
      withDigits? tie w num den k = some d → d.nearest = w := by
    intro num den k d hd
    simp only [withDigits?] at hd
    split at hd
    · cases hd
    · rename_i he
      cases hd
      exact hreading (he ▸ List.mem_singleton_self d)
    · rename_i low high rest he
      have hlow := hreading (he ▸ List.mem_cons_self : low ∈ _)
      have hhigh := hreading (he ▸ List.mem_cons_of_mem _ List.mem_cons_self : high ∈ _)
      cases hd
      split
      · exact hlow
      · exact hhigh
  rw [shortest, Numeral.nearest_congr (Numeral.rational_strip 400 _)]
  cases hfound : (List.range 17).findSome? fun k =>
      withDigits? tie w (magnitude w).fraction.1 (magnitude w).fraction.2 (k + 1) with
  | none => exact hexact
  | some d =>
      obtain ⟨k, -, hk⟩ := List.exists_of_findSome?_eq_some hfound
      exact hcandidate hk

/-! ## Far outside of the range -/

theorem two_pow_le_ten_pow : (2 : ℚ) ^ (1200 : Int) ≤ 10 ^ (400 : Int) := by
  rw [show (1200 : Int) = ((3 * 400 : Nat) : Int) from rfl,
    show (400 : Int) = ((400 : Nat) : Int) from rfl, zpow_natCast, zpow_natCast, pow_mul]
  exact pow_le_pow_left₀ (by norm_num) (by norm_num) 400

/-- What is less than half of a unit is rounded to nothing. -/
theorem scaledMantissa_eq_zero {num den : Nat} (hden : 0 < den) (k : Nat)
    (h : (num : ℚ) / den < 2 ^ (-(k : Int) - 1)) : scaledMantissa num den (-(k : Int)) = 0 := by
  have hhalf : num * 2 ^ (-(-(k : Int) - 1)).toNat < den * 2 ^ (-(k : Int) - 1).toNat * 2 ^ 0 :=
    (div_lt_zpow_iff hden (-(k : Int) - 1) 0).2 (by rwa [Nat.cast_zero, add_zero])
  have hpositive : (-(-(k : Int) - 1)).toNat = k + 1 := by omega
  have hnone : (-(k : Int) - 1).toNat = 0 := by omega
  rw [hpositive, hnone, Nat.pow_succ, Nat.pow_zero, Nat.mul_one,
    Nat.mul_one, ← Nat.mul_assoc] at hhalf
  have hlt : num * 2 ^ k < den := by omega
  have htwice : 2 * (num * 2 ^ k) < den := by omega
  have hscale : (-(-(k : Int))).toNat = k := by omega
  have hunit : (-(k : Int)).toNat = 0 := by omega
  rw [scaledMantissa, hscale, hunit, Nat.pow_zero, Nat.mul_one, roundHalfEven, Nat.div_eq_of_lt hlt,
    Nat.mod_eq_of_lt hlt]
  exact if_pos htwice

/-- A number that is too small for the format has zero as its nearest one. -/
theorem nearest_eq_zero {num den : Nat} (hden : 0 < den) (h : (num : ℚ) / den < 10 ^ (-400 : Int)) :
    nearest num den = 0 := by
  by_cases hnum : num = 0
  · rw [hnum, nearest, if_pos rfl]
  · obtain ⟨e, he, hlow, -⟩ := mantissaExponent_spec (Nat.pos_of_ne_zero hnum) hden
    have hpow : (10 : ℚ) ^ (-400 : Int) ≤ 2 ^ (-1200 : Int) := by
      rw [zpow_neg, zpow_neg]
      exact inv_anti₀ (by positivity) two_pow_le_ten_pow
    have hbound : ∀ e : Int, -1200 ≤ e → (num : ℚ) / den < 2 ^ e := fun e he =>
      lt_of_lt_of_le (lt_of_lt_of_le h hpow) (zpow_le_zpow_right₀ one_le_two he)
    have hexponent : mantissaExponent num den = -1074 := by
      rw [he]
      exact max_eq_left (le_of_zpow_lt hlow (hbound _ (by decide)))
    have hmantissa : scaledMantissa num den (-1074) = 0 :=
      scaledMantissa_eq_zero hden 1074 (hbound _ (by decide))
    rw [nearest_of_ne_zero hnum, hexponent, hmantissa]
    decide

/-- A number that is too large for the format has infinity as its nearest one. -/
theorem nearest_eq_infinity {num den : Nat} (hden : 0 < den)
    (h : (10 : ℚ) ^ (400 : Int) ≤ num / den) :
    nearest num den = infinityWord := by
  have hnum : num ≠ 0 := by
    rintro rfl
    rw [Nat.cast_zero, zero_div] at h
    exact absurd h (not_le.2 (by positivity))
  obtain ⟨e, he, -, hhigh⟩ := mantissaExponent_spec (Nat.pos_of_ne_zero hnum) hden
  have hlarge : 1148 ≤ e := le_of_zpow_lt (two_pow_le_ten_pow.trans h) hhigh
  have hexponent : mantissaExponent num den = e := he.trans (max_eq_right (by omega))
  rw [nearest_of_ne_zero hnum, hexponent]
  refine min_eq_left (Nat.le_add_right_of_le ?_)
  rw [infinityWord]
  exact Nat.mul_le_mul_right _ (by omega)

/-- The decimal of a finite number lies within the range in which a reader looks at its digits. -/
theorem Numeral.rational_bounds {d : Numeral} {w : Nat} (hd : d.nearest = w) (hw : w ≠ 0)
    (hfinite : w < infinityWord) :
    (10 : ℚ) ^ (-400 : Int) ≤ d.rational ∧ d.rational < 10 ^ (400 : Int) := by
  have hden : 0 < 10 ^ (-d.exponent).toNat := Nat.pow_pos (by decide)
  rw [d.rational_eq_div]
  refine ⟨le_of_not_gt fun hsmall => hw ?_, lt_of_not_ge fun hlarge => ?_⟩
  · rw [← hd]
    exact nearest_eq_zero hden hsmall
  · rw [← hd] at hfinite
    exact absurd (nearest_eq_infinity hden hlarge) (Nat.ne_of_lt hfinite)

end WorkItems.Decimal
