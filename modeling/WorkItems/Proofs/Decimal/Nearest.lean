import Mathlib.Algebra.Order.Field.Power
import Mathlib.Algebra.Order.Field.Rat
import Mathlib.Data.Rat.Cast.Order
import Mathlib.Tactic.Linarith
import Mathlib.Tactic.Positivity
import Mathlib.Tactic.Ring
import WorkItems.Decimal.Binary
/-!
# The nearest number

`nearest` is given a fraction, and what it answers depends only on the rational number that the
fraction is. A fraction that is the magnitude of a word has this word as its nearest one. Rational
numbers are only compared here with powers of two.
-/

namespace WorkItems.Decimal

/-! ## Powers with integer exponents -/

/-- A power of a natural number as a fraction of two natural numbers. -/
theorem zpow_eq_div (b : Nat) (hb : 0 < b) (e : Int) :
    (b : ℚ) ^ e = (b ^ e.toNat : Nat) / (b ^ (-e).toNat : Nat) := by
  have hne : (b : ℚ) ≠ 0 := Nat.cast_ne_zero.2 (Nat.pos_iff_ne_zero.1 hb)
  rw [Nat.cast_pow, Nat.cast_pow, ← zpow_natCast, ← zpow_natCast, ← zpow_sub₀ hne]
  congr 1
  omega

/-- A fraction below a power of two, without division. -/
theorem div_lt_zpow_iff {num den : Nat} (hden : 0 < den) (e : Int) (k : Nat) :
    num * 2 ^ (-e).toNat < den * 2 ^ e.toNat * 2 ^ k ↔ (num : ℚ) / den < 2 ^ (e + k) := by
  have hden' : (0 : ℚ) < den := Nat.cast_pos.2 hden
  have hscale : (0 : ℚ) < ((2 ^ (-e).toNat : Nat) : ℚ) := Nat.cast_pos.2 (Nat.two_pow_pos _)
  have hpow : (2 : ℚ) ^ (e + k) =
      ((2 ^ e.toNat : Nat) : ℚ) / ((2 ^ (-e).toNat : Nat) : ℚ) * 2 ^ k := by
    rw [zpow_add₀ two_ne_zero, zpow_natCast]
    congr 1
    exact_mod_cast zpow_eq_div 2 two_pos e
  rw [hpow, div_lt_iff₀ hden', div_mul_eq_mul_div, div_mul_eq_mul_div, lt_div_iff₀ hscale]
  constructor
  · intro h
    have hcast : ((num * 2 ^ (-e).toNat : Nat) : ℚ) < ((den * 2 ^ e.toNat * 2 ^ k : Nat) : ℚ) :=
      Nat.cast_lt.2 h
    push_cast at hcast ⊢
    linarith
  · intro h
    have hcast : ((num * 2 ^ (-e).toNat : Nat) : ℚ) < ((den * 2 ^ e.toNat * 2 ^ k : Nat) : ℚ) := by
      push_cast at h ⊢
      linarith
    exact Nat.cast_lt.1 hcast

/-- Powers of two between which a natural number lies. -/
theorem log2_bounds {n : Nat} (hn : 0 < n) :
    (2 : ℚ) ^ (n.log2 : Int) ≤ n ∧ (n : ℚ) < 2 ^ ((n.log2 : Int) + 1) := by
  have hlow : 2 ^ n.log2 ≤ n := Nat.log2_self_le (Nat.pos_iff_ne_zero.1 hn)
  have hhigh : n < 2 ^ (n.log2 + 1) := Nat.lt_log2_self
  refine ⟨by exact_mod_cast hlow, ?_⟩
  have hcast : ((n.log2 : Int) + 1) = ((n.log2 + 1 : Nat) : Int) := by push_cast; rfl
  rw [hcast, zpow_natCast]
  exact_mod_cast hhigh

/-! ## The exponent -/

/-- The exponent of a fraction is the one with which its mantissa has 53 bits, or the least one. -/
theorem mantissaExponent_spec {num den : Nat} (hnum : 0 < num) (hden : 0 < den) :
    ∃ e : Int, mantissaExponent num den = max (-1074) e ∧
      (2 : ℚ) ^ (e + 52) ≤ num / den ∧ (num : ℚ) / den < 2 ^ (e + 53) := by
  obtain ⟨hnumLow, hnumHigh⟩ := log2_bounds hnum
  obtain ⟨hdenLow, hdenHigh⟩ := log2_bounds hden
  have hden' : (0 : ℚ) < den := Nat.cast_pos.2 hden
  have hlow : (2 : ℚ) ^ ((num.log2 : Int) - den.log2 - 53 + 52) ≤ num / den := by
    rw [le_div_iff₀ hden']
    calc (2 : ℚ) ^ ((num.log2 : Int) - den.log2 - 53 + 52) * den
        ≤ 2 ^ ((num.log2 : Int) - den.log2 - 53 + 52) * 2 ^ ((den.log2 : Int) + 1) :=
          mul_le_mul_of_nonneg_left (le_of_lt hdenHigh) (by positivity)
      _ = 2 ^ (num.log2 : Int) := by
          rw [← zpow_add₀ two_ne_zero]
          congr 1
          ring
      _ ≤ num := hnumLow
  have hhigh : (num : ℚ) / den < 2 ^ ((num.log2 : Int) - den.log2 - 53 + 54) := by
    rw [div_lt_iff₀ hden']
    calc (num : ℚ) < 2 ^ ((num.log2 : Int) + 1) := hnumHigh
      _ = 2 ^ ((num.log2 : Int) - den.log2 - 53 + 54) * 2 ^ (den.log2 : Int) := by
          rw [← zpow_add₀ two_ne_zero]
          congr 1
          ring
      _ ≤ 2 ^ ((num.log2 : Int) - den.log2 - 53 + 54) * den :=
          mul_le_mul_of_nonneg_left hdenLow (by positivity)
  generalize hestimate : (num.log2 : Int) - den.log2 - 53 = estimate at hlow hhigh
  have hfits : ∀ e : Int, (num * 2 ^ (-e).toNat < den * 2 ^ e.toNat * 2 ^ (fractionBits + 1)) ↔
      (num : ℚ) / den < 2 ^ (e + 53) := fun e => div_lt_zpow_iff hden e 53
  by_cases hfit : (num : ℚ) / den < 2 ^ (estimate + 53)
  · refine ⟨estimate, ?_, hlow, hfit⟩
    simp only [mantissaExponent, hestimate, (hfits estimate).2 hfit, decide_true, if_true]
  · refine ⟨estimate + 1, ?_, ?_, ?_⟩
    · have hnot := mt (hfits estimate).1 hfit
      simp only [mantissaExponent, hestimate, hnot, decide_false, Bool.false_eq_true, if_false]
    · rw [show estimate + 1 + 52 = estimate + 53 by ring]
      exact not_lt.1 hfit
    · rw [show estimate + 1 + 53 = estimate + 54 by ring]
      exact hhigh

/-- Only one exponent fits. -/
theorem le_of_zpow_lt {q : ℚ} {e e' : Int} (h : (2 : ℚ) ^ (e + 52) ≤ q) (h' : q < 2 ^ (e' + 53)) :
    e ≤ e' := by
  have hlt := (zpow_lt_zpow_iff_right₀ (one_lt_two (α := ℚ))).1 (lt_of_le_of_lt h h')
  omega

/-! ## Rounding -/

theorem roundHalfEven_mul (num den : Nat) {k : Nat} (hk : 0 < k) :
    roundHalfEven (num * k) (den * k) = roundHalfEven num den := by
  have hless : 2 * (num % den * k) < den * k ↔ 2 * (num % den) < den := by
    rw [← Nat.mul_assoc]
    exact Nat.mul_lt_mul_right hk
  have hmore : den * k < 2 * (num % den * k) ↔ den < 2 * (num % den) := by
    rw [← Nat.mul_assoc]
    exact Nat.mul_lt_mul_right hk
  simp only [roundHalfEven, Nat.mul_div_mul_right _ _ hk, Nat.mul_mod_mul_right, hless, hmore]

/-- Rounding depends only on the number that the fraction is. -/
theorem roundHalfEven_congr {num den num' den' : Nat} (hden : 0 < den) (hden' : 0 < den')
    (h : num * den' = num' * den) : roundHalfEven num den = roundHalfEven num' den' := by
  rw [← roundHalfEven_mul num den hden', ← roundHalfEven_mul num' den' hden, h,
    Nat.mul_comm den' den]

/-- A natural number is rounded to itself. -/
theorem roundHalfEven_self (n : Nat) {k : Nat} (hk : 0 < k) : roundHalfEven (n * k) k = n := by
  have hscale := roundHalfEven_mul n 1 hk
  rw [Nat.one_mul] at hscale
  rw [hscale]
  simp [roundHalfEven, Nat.mod_one]

theorem scaledMantissa_congr {num den num' den' : Nat} (hden : 0 < den) (hden' : 0 < den')
    (h : num * den' = num' * den) (e : Int) :
    scaledMantissa num den e = scaledMantissa num' den' e := by
  refine roundHalfEven_congr (Nat.mul_pos hden (Nat.two_pow_pos _))
    (Nat.mul_pos hden' (Nat.two_pow_pos _)) ?_
  calc num * 2 ^ (-e).toNat * (den' * 2 ^ e.toNat)
      = num * den' * (2 ^ (-e).toNat * 2 ^ e.toNat) := by ring
    _ = num' * 2 ^ (-e).toNat * (den * 2 ^ e.toNat) := by rw [h]; ring

/-! ## The nearest word -/

theorem nearest_of_ne_zero {num : Nat} (hnum : num ≠ 0) (den : Nat) :
    nearest num den = min infinityWord ((mantissaExponent num den + 1074).toNat * 2 ^ fractionBits +
      scaledMantissa num den (mantissaExponent num den)) := if_neg hnum

/-- Fractions of one number have one nearest word. -/
theorem nearest_congr {num den num' den' : Nat} (hden : 0 < den) (hden' : 0 < den')
    (h : num * den' = num' * den) : nearest num den = nearest num' den' := by
  by_cases hnum : num = 0
  · have hnum' : num' = 0 := by
      rw [hnum, Nat.zero_mul] at h
      exact (Nat.mul_eq_zero.1 h.symm).resolve_right (Nat.pos_iff_ne_zero.1 hden)
    rw [hnum, hnum', nearest, nearest, if_pos rfl, if_pos rfl]
  · have hnum' : num' ≠ 0 := by
      rintro rfl
      rw [Nat.zero_mul] at h
      exact hnum ((Nat.mul_eq_zero.1 h).resolve_right (Nat.pos_iff_ne_zero.1 hden'))
    obtain ⟨e, he, hlow, hhigh⟩ := mantissaExponent_spec (Nat.pos_of_ne_zero hnum) hden
    obtain ⟨e', he', hlow', hhigh'⟩ := mantissaExponent_spec (Nat.pos_of_ne_zero hnum') hden'
    have hvalue : (num : ℚ) / den = num' / den' := by
      rw [div_eq_div_iff (Nat.cast_ne_zero.2 (Nat.pos_iff_ne_zero.1 hden))
        (Nat.cast_ne_zero.2 (Nat.pos_iff_ne_zero.1 hden'))]
      exact_mod_cast h
    rw [hvalue] at hlow hhigh
    obtain rfl : e = e' := le_antisymm (le_of_zpow_lt hlow hhigh') (le_of_zpow_lt hlow' hhigh)
    rw [nearest_of_ne_zero hnum, nearest_of_ne_zero hnum', he, he',
      scaledMantissa_congr hden hden' h]

/-- A fraction that is a mantissa with the exponent that belongs to it. -/
theorem nearest_of_exponent {num den m : Nat} {e : Int} (hden : 0 < den) (hnum : num ≠ 0)
    (hvalue : num * 2 ^ (-e).toNat = m * (den * 2 ^ e.toNat))
    (hexponent : mantissaExponent num den = e) :
    nearest num den = min infinityWord ((e + 1074).toNat * 2 ^ fractionBits + m) := by
  have hmantissa : scaledMantissa num den e = m := by
    rw [scaledMantissa, hvalue]
    exact roundHalfEven_self m (Nat.mul_pos hden (Nat.two_pow_pos _))
  rw [nearest_of_ne_zero hnum, hexponent, hmantissa]

/-- The fraction of a word is the rational number with its mantissa and exponent. -/
theorem fraction_value (m : Magnitude) :
    (m.fraction.1 : ℚ) / m.fraction.2 = m.mantissa * 2 ^ m.exponent := by
  rw [Magnitude.fraction, Nat.cast_mul, mul_div_assoc]
  congr 1
  exact_mod_cast (zpow_eq_div 2 two_pos m.exponent).symm

/-- A mantissa of at most 53 bits, and of no fewer unless the exponent is the least one. -/
structure Magnitude.Fits (m : Magnitude) : Prop where
  ne_zero : m.mantissa ≠ 0
  lt : m.mantissa < 2 ^ 53
  exponent : m.exponent = -1074 ∨ (-1074 ≤ m.exponent ∧ 2 ^ 52 ≤ m.mantissa)

/-- A magnitude has the exponent that belongs to its fraction. -/
theorem Magnitude.Fits.mantissaExponent_fraction {m : Magnitude} (h : m.Fits) :
    mantissaExponent m.fraction.1 m.fraction.2 = m.exponent := by
  have hden : 0 < m.fraction.2 := Nat.two_pow_pos _
  have hnum : 0 < m.fraction.1 := Nat.mul_pos (Nat.pos_of_ne_zero h.ne_zero) (Nat.two_pow_pos _)
  have htwo : (0 : ℚ) < 2 ^ m.exponent := by positivity
  obtain ⟨e, he, hlow, hhigh⟩ := mantissaExponent_spec hnum hden
  rw [fraction_value] at hlow hhigh
  have hle : e ≤ m.exponent := by
    have hlt : (m.mantissa : ℚ) < 2 ^ (53 : Int) := by exact_mod_cast h.lt
    refine le_of_zpow_lt hlow ?_
    rw [zpow_add₀ two_ne_zero, mul_comm]
    exact mul_lt_mul_of_pos_left hlt htwo
  rw [he]
  rcases h.exponent with hleast | ⟨hleast, hmantissa⟩
  · rw [hleast]
    exact max_eq_left (hleast ▸ hle)
  · have hge : m.exponent ≤ e := by
      have hbits : (2 : ℚ) ^ (52 : Int) ≤ m.mantissa := by exact_mod_cast hmantissa
      refine le_of_zpow_lt ?_ hhigh
      rw [zpow_add₀ two_ne_zero, mul_comm]
      exact mul_le_mul_of_nonneg_right hbits (le_of_lt htwo)
    rw [le_antisymm hle hge]
    exact max_eq_right hleast

theorem Magnitude.Fits.nearest_fraction {m : Magnitude} (h : m.Fits) :
    nearest m.fraction.1 m.fraction.2 =
      min infinityWord ((m.exponent + 1074).toNat * 2 ^ fractionBits + m.mantissa) := by
  have hnum : m.fraction.1 ≠ 0 :=
    Nat.mul_ne_zero h.ne_zero (Nat.pos_iff_ne_zero.1 (Nat.two_pow_pos _))
  refine nearest_of_exponent (Nat.two_pow_pos _) hnum ?_ h.mantissaExponent_fraction
  rw [Magnitude.fraction]
  ring

/-- A finite word is the nearest one of its own magnitude. -/
theorem nearest_magnitude {w : Nat} (hw : w ≠ 0) (hfinite : w < infinityWord) :
    nearest (magnitude w).fraction.1 (magnitude w).fraction.2 = w := by
  by_cases hsmall : w < 2 ^ fractionBits
  · have hmagnitude : magnitude w = ⟨w, -1074⟩ := if_pos hsmall
    have hfits : (Magnitude.mk w (-1074)).Fits := ⟨hw, lt_trans hsmall (by decide), .inl rfl⟩
    rw [hmagnitude, hfits.nearest_fraction]
    simp only [Int.reduceNeg, Int.reduceAdd, Int.toNat_zero, Nat.zero_mul, Nat.zero_add]
    exact min_eq_right (le_of_lt hfinite)
  · have hquotient : 1 ≤ w / 2 ^ fractionBits := Nat.div_pos (not_lt.1 hsmall) (Nat.two_pow_pos _)
    have hmagnitude : magnitude w = ⟨2 ^ fractionBits + w % 2 ^ fractionBits,
      (w / 2 ^ fractionBits : Nat) - 1075⟩ := if_neg hsmall
    have hremainder : w % 2 ^ fractionBits < 2 ^ fractionBits := Nat.mod_lt _ (Nat.two_pow_pos _)
    have hbits : 2 ^ fractionBits = 2 ^ 52 := rfl
    have hfits : (Magnitude.mk (2 ^ fractionBits + w % 2 ^ fractionBits)
        ((w / 2 ^ fractionBits : Nat) - 1075)).Fits :=
      { ne_zero := Nat.ne_of_gt (Nat.add_pos_left (Nat.two_pow_pos _) _)
        lt := by dsimp only; omega
        exponent := .inr ⟨by dsimp only; omega, Nat.le_add_right _ _⟩ }
    have hword : (((w / 2 ^ fractionBits : Nat) - 1075 : Int) + 1074).toNat * 2 ^ fractionBits +
        (2 ^ fractionBits + w % 2 ^ fractionBits) = w := by
      have hsub : (((w / 2 ^ fractionBits : Nat) - 1075 : Int) + 1074).toNat =
          w / 2 ^ fractionBits - 1 := by omega
      rw [hsub, Nat.sub_mul, Nat.one_mul, ← Nat.add_assoc,
        Nat.sub_add_cancel (Nat.le_mul_of_pos_left _ hquotient), Nat.mul_comm]
      exact Nat.div_add_mod w (2 ^ fractionBits)
    rw [hmagnitude, hfits.nearest_fraction, hword]
    exact min_eq_right (le_of_lt hfinite)

end WorkItems.Decimal
