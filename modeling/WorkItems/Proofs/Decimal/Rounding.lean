import WorkItems.Proofs.Decimal.Exact
import WorkItems.Proofs.Decimal.Nearest
/-!
# Rounding to the nearest number

What `nearest` gives is closest to its fraction, and of two that are closest it is the even one. The
mantissa is closest among the multiples of one unit of the last place, and all words with a greater
exponent are such multiples, too. Words with a smaller exponent lie below the least mantissa with a
leading bit, which is a multiple itself and between them and the fraction.
-/

namespace WorkItems.Decimal

/-! ## Natural numbers -/

theorem roundHalfEven_bounds (num : Nat) {den : Nat} (hden : 0 < den) :
    2 * (roundHalfEven num den * den) ≤ 2 * num + den ∧
      2 * num ≤ 2 * (roundHalfEven num den * den) + den ∧
      (roundHalfEven num den % 2 = 1 → 2 * (roundHalfEven num den * den) < 2 * num + den ∧
        2 * num < 2 * (roundHalfEven num den * den) + den) := by
  have hdiv := Nat.div_add_mod num den
  have hmod := Nat.mod_lt num hden
  have hsucc : (num / den + 1) * den = den * (num / den) + den := by ring
  have hself : num / den * den = den * (num / den) := Nat.mul_comm _ _
  simp only [roundHalfEven]
  split
  · rw [hself]
    omega
  · split
    · rw [hsucc]
      omega
    · split
      · rw [hself]
        omega
      · rw [hsucc]
        omega

/-- The rounded number is at most a half away, and less than a half if it is odd. -/
theorem abs_sub_roundHalfEven {num den : Nat} (hden : 0 < den) :
    |(num : ℚ) / den - roundHalfEven num den| ≤ 1 / 2 ∧
      (roundHalfEven num den % 2 = 1 → |(num : ℚ) / den - roundHalfEven num den| < 1 / 2) := by
  have hden' : (0 : ℚ) < den := Nat.cast_pos.2 hden
  obtain ⟨hlow, hhigh, hodd⟩ := roundHalfEven_bounds num hden
  generalize roundHalfEven num den = m at *
  have hsub : (num : ℚ) / den - m = (num - m * den) / den := by field_simp
  have hlow' : 2 * ((m : ℚ) * den) ≤ 2 * num + den := by exact_mod_cast hlow
  have hhigh' : 2 * (num : ℚ) ≤ 2 * (m * den) + den := by exact_mod_cast hhigh
  rw [hsub, abs_div, abs_of_pos hden', div_le_iff₀ hden', div_lt_iff₀ hden', abs_le, abs_lt]
  refine ⟨⟨by linarith, by linarith⟩, fun h => ?_⟩
  obtain ⟨hlow, hhigh⟩ := hodd h
  have hlow' : 2 * ((m : ℚ) * den) < 2 * num + den := by exact_mod_cast hlow
  have hhigh' : 2 * (num : ℚ) < 2 * (m * den) + den := by exact_mod_cast hhigh
  exact ⟨by linarith, by linarith⟩

/--
What is at most a half away is closest, and another is as close only if it is exactly a half away.
-/
theorem closest_of_half {t : ℚ} {m : Nat} (hhalf : |t - m| ≤ 1 / 2)
    (hodd : m % 2 = 1 → |t - m| < 1 / 2) (j : Nat) :
    |t - m| ≤ |t - j| ∧ (|t - m| = |t - j| → j = m ∨ m % 2 = 0) := by
  by_cases hj : j = m
  · subst hj
    exact ⟨le_rfl, fun _ => .inl rfl⟩
  · have hone : (1 : ℚ) ≤ |(m : ℚ) - j| := by
      have hint : (1 : Int) ≤ |(m : Int) - j| := Int.one_le_abs (by omega)
      exact_mod_cast hint
    have htriangle : |(m : ℚ) - j| ≤ |t - m| + |t - j| := by
      have h := abs_sub_le (m : ℚ) t j
      rwa [abs_sub_comm (m : ℚ) t] at h
    refine ⟨by linarith, fun heq => .inr ?_⟩
    by_contra hne
    have hlt := hodd (by omega)
    linarith

/-! ## Words -/

/-- A number has been rounded to a mantissa that counts units of `2 ^ (k - 1074)`. -/
structure IsRounded (q : ℚ) (k m : Nat) : Prop where
  mantissa_le : m ≤ 2 ^ 53
  leading : k = 0 ∨ 2 ^ 52 ≤ m ∧ 2 ^ 52 * 2 ^ ((k : Int) - 1074) ≤ q
  half : |q / 2 ^ ((k : Int) - 1074) - m| ≤ 1 / 2
  odd : m % 2 = 1 → |q / 2 ^ ((k : Int) - 1074) - m| < 1 / 2

/-- What is scaled before it is rounded is the number in units of the last place. -/
theorem abs_sub_scaledMantissa (num : Nat) {den : Nat} (hden : 0 < den) (e : Int) :
    |(num : ℚ) / den / 2 ^ e - scaledMantissa num den e| ≤ 1 / 2 ∧
      (scaledMantissa num den e % 2 = 1 →
        |(num : ℚ) / den / 2 ^ e - scaledMantissa num den e| < 1 / 2) := by
  have hpow : (2 : ℚ) ^ e = (2 ^ e.toNat : Nat) / (2 ^ (-e).toNat : Nat) := by
    exact_mod_cast zpow_eq_div 2 two_pos e
  have hscale : (num : ℚ) / den / 2 ^ e =
      ((num * 2 ^ (-e).toNat : Nat) : ℚ) / ((den * 2 ^ e.toNat : Nat) : ℚ) := by
    rw [hpow, Nat.cast_mul, Nat.cast_mul, div_div_eq_mul_div, div_mul_eq_mul_div, div_div]
  rw [hscale]
  exact abs_sub_roundHalfEven (Nat.mul_pos hden (Nat.two_pow_pos _))

theorem isRounded_nearest {num den : Nat} (hnum : 0 < num) (hden : 0 < den) :
    ∃ k m, nearest num den = min infinityWord (k * 2 ^ 52 + m) ∧ IsRounded (num / den) k m := by
  obtain ⟨e, he, hlow, hhigh⟩ := mantissaExponent_spec hnum hden
  have hnearest := nearest_of_ne_zero (Nat.pos_iff_ne_zero.1 hnum) den
  generalize mantissaExponent num den = f at he hnearest
  obtain ⟨k, rfl⟩ : ∃ k : Nat, f = (k : Int) - 1074 := ⟨(f + 1074).toNat, by omega⟩
  obtain ⟨hhalf, hodd⟩ := abs_sub_scaledMantissa num hden ((k : Int) - 1074)
  have hk : ((k : Int) - 1074 + 1074).toNat = k := by omega
  rw [hk] at hnearest
  refine ⟨k, _, hnearest, ?_⟩
  generalize scaledMantissa num den ((k : Int) - 1074) = m at hhalf hodd
  have hunit : (0 : ℚ) < 2 ^ ((k : Int) - 1074) := by positivity
  rw [abs_le] at hhalf
  have hmost : (num : ℚ) / den / 2 ^ ((k : Int) - 1074) < 2 ^ 53 := by
    rw [div_lt_iff₀ hunit, ← zpow_natCast, ← zpow_add₀ two_ne_zero]
    exact lt_of_lt_of_le hhigh (zpow_le_zpow_right₀ one_le_two (by push_cast; omega))
  refine ⟨?_, ?_, abs_le.2 hhalf, hodd⟩
  · have hlt : (m : ℚ) < 2 ^ 53 + 1 := by linarith
    have hnat : m < 2 ^ 53 + 1 := by exact_mod_cast hlt
    omega
  · rcases Nat.eq_zero_or_pos k with h0 | hpos
    · exact .inl h0
    · obtain rfl : e = (k : Int) - 1074 := by omega
      rw [add_comm, zpow_add₀ two_ne_zero] at hlow
      have hleast : 2 ^ 52 ≤ (num : ℚ) / den / 2 ^ ((k : Int) - 1074) := by
        rw [le_div_iff₀ hunit]
        exact hlow
      have hlt : (2 ^ 52 : ℚ) < m + 1 := by linarith
      have hnat : 2 ^ 52 < m + 1 := by exact_mod_cast hlt
      exact .inr ⟨by omega, hlow⟩

/--
A word with at least the exponent of a unit counts units, and others are less than any leading
mantissa.
-/
theorem exists_mul_or_lt (w k : Nat) :
    (∃ j : Nat, wordValue w = j * 2 ^ ((k : Int) - 1074)) ∨
      k ≠ 0 ∧ wordValue w < 2 ^ 52 * 2 ^ ((k : Int) - 1074) := by
  obtain ⟨hw, hlt, hleast, hleading⟩ := word_eq_magnitude w
  rcases le_or_gt ((k : Int) - 1074) (magnitude w).exponent with hle | hgt
  · obtain ⟨d, hd⟩ : ∃ d : Nat, (magnitude w).exponent = (d : Int) + ((k : Int) - 1074) :=
      ⟨((magnitude w).exponent - ((k : Int) - 1074)).toNat, by omega⟩
    refine .inl ⟨(magnitude w).mantissa * 2 ^ d, ?_⟩
    rw [wordValue, hd, zpow_add₀ two_ne_zero, zpow_natCast]
    push_cast
    ring
  · have hk : k ≠ 0 := by omega
    have hword : w < k * 2 ^ 52 + 2 ^ 52 := by omega
    refine .inr ⟨hk, ?_⟩
    calc wordValue w < wordValue (k * 2 ^ 52 + 2 ^ 52) := wordValue_strictMono hword
      _ = ((2 ^ 52 : Nat) : ℚ) * 2 ^ ((k : Int) - 1074) :=
          wordValue_of_exponent (by omega) (.inr le_rfl)
      _ = 2 ^ 52 * 2 ^ ((k : Int) - 1074) := by rw [Nat.cast_pow, Nat.cast_two]

/-- No word has a value that is closer to a number than the one to which it has been rounded. -/
theorem IsRounded.closest {q : ℚ} {k m : Nat} (h : IsRounded q k m) (w : Nat) :
    |q - wordValue (k * 2 ^ 52 + m)| ≤ |q - wordValue w| ∧
      (|q - wordValue (k * 2 ^ 52 + m)| = |q - wordValue w| →
        wordValue w = wordValue (k * 2 ^ 52 + m) ∨ (k * 2 ^ 52 + m) % 2 = 0) := by
  rw [wordValue_of_exponent h.mantissa_le (h.leading.imp_right And.left)]
  have hunit : (0 : ℚ) < 2 ^ ((k : Int) - 1074) := by positivity
  have hscale : ∀ p : ℚ, |q - p * 2 ^ ((k : Int) - 1074)| =
      |q / 2 ^ ((k : Int) - 1074) - p| * 2 ^ ((k : Int) - 1074) := by
    intro p
    rw [← abs_of_pos hunit, ← abs_mul, abs_of_pos hunit, sub_mul, div_mul_cancel₀ _ hunit.ne']
  have hparity : (k * 2 ^ 52 + m) % 2 = m % 2 := by omega
  rcases exists_mul_or_lt w k with ⟨j, hj⟩ | ⟨hk, hlt⟩
  · obtain ⟨hclosest, htie⟩ := closest_of_half h.half h.odd j
    rw [hj, hscale, hscale, hparity, mul_le_mul_iff_left₀ hunit, mul_left_inj' hunit.ne']
    refine ⟨hclosest, fun heq => (htie heq).imp_left ?_⟩
    rintro rfl
    rfl
  · -- the least leading mantissa lies between the word and the number
    obtain ⟨-, hleast⟩ := h.leading.resolve_left hk
    obtain ⟨hclosest, -⟩ := closest_of_half h.half h.odd (2 ^ 52)
    have hnearer : |q - m * 2 ^ ((k : Int) - 1074)| < |q - wordValue w| := by
      calc |q - m * 2 ^ ((k : Int) - 1074)|
          ≤ |q - ((2 ^ 52 : Nat) : ℚ) * 2 ^ ((k : Int) - 1074)| := by
            rw [hscale, hscale]
            exact mul_le_mul_of_nonneg_right hclosest hunit.le
        _ = q - 2 ^ 52 * 2 ^ ((k : Int) - 1074) := by
            push_cast
            exact abs_of_nonneg (sub_nonneg.2 hleast)
        _ < q - wordValue w := sub_lt_sub_left hlt q
        _ ≤ |q - wordValue w| := le_abs_self _
    exact ⟨hnearer.le, fun heq => absurd heq hnearer.ne⟩

/-! ## Integers -/

/-- The finite number that is closest to a rational number, and the even one if there are two. -/
def IsNearest (q : ℚ) (x : Float) : Prop :=
  isFinite x = true ∧ ∀ y, isFinite y = true → |q - rational x| ≤ |q - rational y| ∧
    (|q - rational x| = |q - rational y| → rational y = rational x ∨ word x % 2 = 0)

theorem nearest_zero (den : Nat) : nearest 0 den = 0 := if_pos rfl

/-- Integers of 64 bits do not overflow. -/
theorem nearest_lt_infinityWord {n : Nat} (hn : n ≤ 2 ^ 64) : nearest n 1 < infinityWord := by
  rcases Nat.eq_zero_or_pos n with rfl | hpos
  · rw [nearest_zero, infinityWord_eq]
    omega
  · obtain ⟨k, m, hnearest, hrounded⟩ := isRounded_nearest hpos Nat.one_pos
    have hmantissa := hrounded.mantissa_le
    have hk : k ≤ 1086 := by
      rcases hrounded.leading with hk | ⟨-, hleast⟩
      · omega
      · have hpow : (2 : ℚ) ^ ((52 : Int) + ((k : Int) - 1074)) ≤ 2 ^ (64 : Int) := by
          rw [zpow_add₀ two_ne_zero]
          calc (2 : ℚ) ^ (52 : Int) * 2 ^ ((k : Int) - 1074) ≤ n / (1 : Nat) := hleast
            _ = n := by rw [Nat.cast_one, div_one]
            _ ≤ 2 ^ (64 : Int) := by exact_mod_cast hn
        have hle := (zpow_le_zpow_iff_right₀ (one_lt_two (α := ℚ))).1 hpow
        omega
    rw [hnearest, infinityWord_eq]
    omega

/-- No word is closer to a natural number than the nearest one. -/
theorem nearest_closest {n : Nat} (hn : n ≤ 2 ^ 64) (w : Nat) :
    |n - wordValue (nearest n 1)| ≤ |n - wordValue w| ∧
      (|n - wordValue (nearest n 1)| = |n - wordValue w| →
        wordValue w = wordValue (nearest n 1) ∨ nearest n 1 % 2 = 0) := by
  rcases Nat.eq_zero_or_pos n with rfl | hpos
  · rw [nearest_zero, wordValue_zero, Nat.cast_zero, sub_zero, abs_zero]
    exact ⟨abs_nonneg _, fun _ => .inr rfl⟩
  · obtain ⟨k, m, hnearest, hrounded⟩ := isRounded_nearest hpos Nat.one_pos
    have hfinite := nearest_lt_infinityWord hn
    have hword : nearest n 1 = k * 2 ^ 52 + m := by omega
    rw [Nat.cast_one, div_one] at hrounded
    rw [hword]
    exact hrounded.closest w

/-- Nor is the negative of one. -/
theorem nearest_closest_of_abs {n : Nat} (hn : n ≤ 2 ^ 64) {p : ℚ} {w : Nat}
    (hp : |p| = wordValue w) :
    |n - wordValue (nearest n 1)| ≤ |n - p| ∧
      (|n - wordValue (nearest n 1)| = |n - p| →
        p = wordValue (nearest n 1) ∨ nearest n 1 % 2 = 0) := by
  obtain ⟨hclosest, htie⟩ := nearest_closest hn w
  obtain ⟨hzero, -⟩ := nearest_closest hn 0
  have hn0 : (0 : ℚ) ≤ n := Nat.cast_nonneg n
  have hv0 := wordValue_nonneg (nearest n 1)
  have hfar : |(n : ℚ) - wordValue w| ≤ |n - p| := by
    have hreverse := abs_abs_sub_abs_le (n : ℚ) p
    rwa [abs_of_nonneg hn0, hp] at hreverse
  refine ⟨hclosest.trans hfar, fun heq => ?_⟩
  refine (htie (le_antisymm hclosest (heq ▸ hfar))).imp_left fun hvalue => ?_
  rw [hvalue] at hp
  rcases abs_choice p with hpos | hneg
  · rw [← hpos, hp]
  · -- a number and its negative are as far from a natural number only if one of them is zero
    have hminus : p = -wordValue (nearest n 1) := by rw [← hp, hneg, neg_neg]
    rw [hminus, sub_neg_eq_add, abs_of_nonneg (add_nonneg hn0 hv0)] at heq
    rw [wordValue_zero, sub_zero, abs_of_nonneg hn0] at hzero
    have hv : wordValue (nearest n 1) = 0 := by linarith
    rw [hminus, hv, neg_zero]

theorem cast_eq_natAbs (i : Int) : (i : ℚ) = if i < 0 then -(i.natAbs : ℚ) else i.natAbs := by
  split
  · rename_i hneg
    rw [← Int.cast_natCast, Int.ofNat_natAbs_of_nonpos hneg.le, Int.cast_neg, neg_neg]
  · rename_i hneg
    rw [← Int.cast_natCast, Int.natAbs_of_nonneg (not_lt.1 hneg)]

theorem abs_rational (x : Float) : |rational x| = wordValue (word x) := by
  rw [rational]
  split
  · rw [abs_neg, abs_of_nonneg (wordValue_nonneg _)]
  · exact abs_of_nonneg (wordValue_nonneg _)

theorem rational_ofWord {negative : Bool} {w : Nat} (h : w ≤ infinityWord) :
    rational (ofWord negative w) = if negative then -wordValue w else wordValue w := by
  rw [rational, word_ofWord h, isNegative_ofWord h]

/-- An integer of 64 bits becomes the nearest number. -/
theorem isNearest_ofInt {i : Int} (hi : i.natAbs ≤ 2 ^ 64) : IsNearest i (ofInt i) := by
  have hfinite := nearest_lt_infinityWord hi
  have hword : word (ofInt i) = nearest i.natAbs 1 := word_ofWord hfinite.le
  have hvalue : rational (ofInt i) = _ := rational_ofWord hfinite.le
  refine ⟨decide_eq_true (hword ▸ hfinite), fun y hy => ?_⟩
  rw [hvalue, hword]
  have hint := cast_eq_natAbs i
  by_cases hneg : i < 0
  · rw [if_pos hneg] at hint
    have hflip : ∀ p : ℚ, |(i : ℚ) - p| = |(i.natAbs : ℚ) - -p| := by
      intro p
      rw [hint, ← abs_neg]
      congr 1
      ring
    have habs : |-rational y| = wordValue (word y) := by rw [abs_neg, abs_rational]
    obtain ⟨hclosest, htie⟩ := nearest_closest_of_abs hi habs
    rw [decide_eq_true hneg, if_pos rfl, hflip, hflip, neg_neg]
    exact ⟨hclosest, fun heq => (htie heq).imp_left neg_eq_iff_eq_neg.1⟩
  · rw [if_neg hneg] at hint
    rw [decide_eq_false hneg, if_neg Bool.false_ne_true, hint]
    exact nearest_closest_of_abs hi (abs_rational y)

/-- A number that is nearest to a value that some number has has this value. -/
theorem IsNearest.eq_of_rational {q : ℚ} {x y : Float} (h : IsNearest q x) (hy : isFinite y = true)
    (hvalue : rational y = q) : rational x = q := by
  have hclosest := (h.2 y hy).1
  rw [hvalue, sub_self, abs_zero, abs_nonpos_iff, sub_eq_zero] at hclosest
  exact hclosest.symm

/-- No number lies between a value and the nearest one. -/
theorem IsNearest.eq_of_le_of_lt {q : ℚ} {x y : Float} (h : IsNearest q x) (hy : isFinite y = true)
    (hle : rational x ≤ rational y) (hlt : rational y < q) : rational x = rational y := by
  have hclosest := (h.2 y hy).1
  rw [abs_of_nonneg (sub_nonneg.2 (hle.trans hlt.le)),
    abs_of_nonneg (sub_nonneg.2 hlt.le)] at hclosest
  exact le_antisymm hle (by linarith)

theorem IsNearest.eq_of_ge_of_gt {q : ℚ} {x y : Float} (h : IsNearest q x) (hy : isFinite y = true)
    (hge : rational y ≤ rational x) (hgt : q < rational y) : rational x = rational y := by
  have hclosest := (h.2 y hy).1
  rw [abs_of_nonpos (sub_nonpos.2 (hgt.le.trans hge)),
    abs_of_nonpos (sub_nonpos.2 hgt.le)] at hclosest
  exact le_antisymm (by linarith) hge

/-- Up to 53 bits a natural number is a mantissa, once it has been shifted to the leading bit. -/
theorem exists_wordValue_eq {n : Nat} (hn : n ≤ 2 ^ 53) : ∃ w < infinityWord, wordValue w = n := by
  rcases Nat.eq_zero_or_pos n with rfl | hpos
  · exact ⟨0, by rw [infinityWord_eq]; omega, by rw [wordValue_zero, Nat.cast_zero]⟩
  rcases Nat.lt_or_ge n (2 ^ 52) with hsmall | hlarge
  · have hlow : 2 ^ n.log2 ≤ n := Nat.log2_self_le hpos.ne'
    have hhigh : n < 2 ^ (n.log2 + 1) := Nat.lt_log2_self
    have hlog : n.log2 < 52 := (Nat.pow_lt_pow_iff_right Nat.one_lt_two).1 (hlow.trans_lt hsmall)
    obtain ⟨d, hd⟩ : ∃ d, n.log2 + d = 52 := ⟨52 - n.log2, by omega⟩
    have hleading : 2 ^ 52 ≤ n * 2 ^ d := by
      rw [← hd, Nat.pow_add]
      exact Nat.mul_le_mul_right _ hlow
    have hmost : n * 2 ^ d < 2 ^ 53 := by
      have hsum : 53 = n.log2 + 1 + d := by omega
      rw [hsum, Nat.pow_add]
      exact Nat.mul_lt_mul_of_pos_right hhigh (Nat.two_pow_pos _)
    refine ⟨(1074 - d) * 2 ^ 52 + n * 2 ^ d, by rw [infinityWord_eq]; omega, ?_⟩
    have hexponent : ((1074 - d : Nat) : Int) - 1074 = -d := by omega
    rw [wordValue_of_exponent hmost.le (.inr hleading), hexponent, zpow_neg, zpow_natCast,
      Nat.cast_mul, Nat.cast_pow, Nat.cast_two, mul_assoc, mul_inv_cancel₀ (by positivity), mul_one]
  · refine ⟨1074 * 2 ^ 52 + n, by rw [infinityWord_eq]; omega, ?_⟩
    rw [wordValue_of_exponent hn (.inr hlarge), Nat.cast_ofNat, sub_self, zpow_zero, mul_one]

/-- Integers up to 53 bits are values of numbers. -/
theorem exists_rational_eq {i : Int} (hi : i.natAbs ≤ 2 ^ 53) :
    ∃ y, isFinite y = true ∧ rational y = i := by
  obtain ⟨w, hw, hvalue⟩ := exists_wordValue_eq hi
  refine ⟨ofWord (i < 0) w, decide_eq_true ((word_ofWord hw.le).symm ▸ hw), ?_⟩
  rw [rational_ofWord hw.le, hvalue, cast_eq_natAbs]
  simp only [decide_eq_true_eq]

end WorkItems.Decimal
