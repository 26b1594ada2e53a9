import Mathlib
import WorkItems.Decimal.Binary
/-!
# The order of floating-point numbers

Two numbers are compared as their signs, exponents and mantissas are. In a word without its sign bit
the exponent stands above the mantissa, so for numbers that are not NaN this is the order of the
words, with the sign in front of them (`lt_iff`). A NaN is neither less nor greater than anything.
-/

namespace WorkItems.Decimal

open Float.Model Float.Model.UnpackedFloat

/-! ## The parts of a word -/

/-- The sign of a number as its sign bit has it. -/
def sign (x : Float) : Sign := if isNegative x then .negative else .positive

/-- The word of a number with its sign. Zero has one, whatever its sign bit is. -/
def signedWord (x : Float) : Int := (sign x).apply (word x)

/-- What the number with a word and a sign is unpacked to. -/
inductive Unpacks (s : Sign) (w : Nat) : UnpackedFloat → Prop
  | zero : w = 0 → Unpacks s w (.zero s)
  | finite (h : 0 < (magnitude w).mantissa) : 0 < w → w < infinityWord →
      Unpacks s w (.finite s (magnitude w).mantissa (magnitude w).exponent h)
  | infinite : w = infinityWord → Unpacks s w (.infinity s)
  | nan : infinityWord < w → Unpacks s w .notANumber

theorem infinityWord_eq : infinityWord = 2047 * 2 ^ 52 := rfl

theorem magnitude_of_lt {w : Nat} (h : w < 2 ^ 52) : magnitude w = ⟨w, -1074⟩ := if_pos h

theorem magnitude_of_ge {w : Nat} (h : 2 ^ 52 ≤ w) :
    magnitude w = ⟨2 ^ 52 + w % 2 ^ 52, (w / 2 ^ 52 : Nat) - 1075⟩ := if_neg (not_lt.2 h)

theorem Unpacks.of_magnitude {s : Sign} {w m : Nat} {e : Int} (hm : magnitude w = ⟨m, e⟩)
    (hw : 0 < w) (hfinite : w < infinityWord) (h : 0 < m) : Unpacks s w (.finite s m e h) := by
  obtain ⟨rfl, rfl⟩ : (magnitude w).mantissa = m ∧ (magnitude w).exponent = e := by
    rw [hm]
    exact ⟨rfl, rfl⟩
  exact .finite h hw hfinite

theorem toNat_unpackExponent (b : UInt64) :
    (@unpackExponent .binary64 b.toBitVec).toNat = b.toNat % 2 ^ wordBits / 2 ^ 52 := by
  rw [unpackExponent_def, BitVec.extractLsb'_toNat]
  simp only [UInt64.toNat_toBitVec, Nat.shiftRight_eq_div_pow, wordBits]
  omega

theorem toNat_unpackMantissa (b : UInt64) :
    (@unpackMantissa .binary64 b.toBitVec).toNat = b.toNat % 2 ^ wordBits % 2 ^ 52 := by
  rw [unpackMantissa_def, BitVec.extractLsb'_toNat]
  simp [wordBits]

theorem sign_toBits (x : Float) :
    Sign.ofBitVec (@unpackSign .binary64 x.toBits.toBitVec) = sign x := by
  have hlt : x.toBits.toNat < 2 ^ 64 := x.toBits.toNat_lt
  have hbit : @unpackSign .binary64 x.toBits.toBitVec = 0#1 ↔ isNegative x = false := by
    rw [unpackSign_def, ← BitVec.toNat_inj, BitVec.extractLsb'_toNat, isNegative,
      decide_eq_false_iff_not]
    simp only [UInt64.toNat_toBitVec, Nat.shiftRight_eq_div_pow, BitVec.toNat_ofNat, wordBits]
    omega
  rw [Sign.ofBitVec, sign]
  by_cases h : isNegative x
  · rw [if_neg (mt hbit.1 (by simp [h])), if_pos h]
  · rw [if_pos (hbit.2 (by simpa using h)), if_neg h]

theorem unpackExponent_eq_ones_iff (b : UInt64) :
    @unpackExponent .binary64 b.toBitVec = -1#_ ↔ b.toNat % 2 ^ wordBits / 2 ^ 52 = 2047 := by
  rw [← toNat_unpackExponent, ← BitVec.toNat_inj]
  rfl

theorem unpackExponent_eq_zero_iff (b : UInt64) :
    @unpackExponent .binary64 b.toBitVec = 0#_ ↔ b.toNat % 2 ^ wordBits / 2 ^ 52 = 0 := by
  rw [← toNat_unpackExponent, ← BitVec.toNat_inj]
  rfl

theorem unpackMantissa_eq_zero_iff (b : UInt64) :
    @unpackMantissa .binary64 b.toBitVec = 0#_ ↔ b.toNat % 2 ^ wordBits % 2 ^ 52 = 0 := by
  rw [← toNat_unpackMantissa, ← BitVec.toNat_inj]
  rfl

/-- A number is unpacked to the parts of its word. -/
theorem unpacks_toModel (x : Float) : Unpacks (sign x) (word x) x.toModel.unpack := by
  have hbits : x.toModel.unpack = UnpackedFloat.unpack .binary64 x.toBits.toBitVec := rfl
  have hmost : word x < 2048 * 2 ^ 52 := Nat.mod_lt _ (Nat.two_pow_pos wordBits)
  have hexponent : (@unpackExponent .binary64 x.toBits.toBitVec).toNat = word x / 2 ^ 52 :=
    toNat_unpackExponent _
  have hmantissa : (@unpackMantissa .binary64 x.toBits.toBitVec).toNat = word x % 2 ^ 52 :=
    toNat_unpackMantissa _
  have hones : @unpackExponent .binary64 x.toBits.toBitVec = -1#_ ↔ word x / 2 ^ 52 = 2047 :=
    unpackExponent_eq_ones_iff _
  have hnone : @unpackExponent .binary64 x.toBits.toBitVec = 0#_ ↔ word x / 2 ^ 52 = 0 :=
    unpackExponent_eq_zero_iff _
  have hzero : @unpackMantissa .binary64 x.toBits.toBitVec = 0#_ ↔ word x % 2 ^ 52 = 0 :=
    unpackMantissa_eq_zero_iff _
  have hbias : (Format.binary64.exponentBias : Int) + Format.binary64.mantissaBitsWithoutImplicit =
      1075 := rfl
  rw [hbits, UnpackedFloat.unpack]
  simp only [sign_toBits, hones, hnone, hzero]
  split
  · split
    · exact .infinite (by rw [infinityWord_eq]; omega)
    · exact .nan (by rw [infinityWord_eq]; omega)
  · split
    · split
      · exact .zero (by omega)
      · refine .of_magnitude ?_ (by omega) (by rw [infinityWord_eq]; omega) _
        rw [magnitude_of_lt (by omega), hmantissa, hexponent, hbias, Magnitude.mk.injEq]
        omega
    · refine .of_magnitude ?_ (by omega) (by rw [infinityWord_eq]; omega) _
      rw [magnitude_of_ge (by omega), hexponent, hbias, Magnitude.mk.injEq]
      refine ⟨?_, rfl⟩
      rw [BitVec.toNat_append, ← Nat.shiftLeft_add_eq_or_of_lt (BitVec.isLt _), hmantissa]
      rfl

/-! ## Numbers of a word -/

section OfWord

variable {negative : Bool} {w : Nat}

theorem toBits_ofBits {b : UInt64} (h : b.toNat % 2 ^ wordBits ≤ infinityWord) :
    (Float.ofBits b).toBits = b := by
  have hnumber : @isNaNBits .binary64 b.toBitVec = false := by
    rw [infinityWord_eq] at h
    rw [isNaNBits, decide_eq_false_iff_not, ne_eq, unpackExponent_eq_ones_iff,
      unpackMantissa_eq_zero_iff]
    omega
  have hpack := @pack_unpack .binary64 b.toBitVec (by decide)
  rw [hnumber, if_neg (by simp)] at hpack
  exact UInt64.toBitVec_inj.1 hpack

theorem toNat_toBits_ofWord (h : w ≤ infinityWord) :
    (ofWord negative w).toBits.toNat = if negative then w + 2 ^ wordBits else w := by
  have hlt : (if negative then w + 2 ^ wordBits else w) < 2 ^ 64 := by
    rw [infinityWord_eq] at h
    rw [wordBits]
    split <;> omega
  have hword : (if negative then w + 2 ^ wordBits else w) % 2 ^ wordBits ≤ infinityWord := by
    split
    · rw [Nat.add_mod_right]
      exact (Nat.mod_le _ _).trans h
    · exact (Nat.mod_le _ _).trans h
  rw [ofWord, toBits_ofBits, UInt64.toNat_ofNat_of_lt' hlt]
  rwa [UInt64.toNat_ofNat_of_lt' hlt]

theorem word_ofWord (h : w ≤ infinityWord) : word (ofWord negative w) = w := by
  rw [word, toNat_toBits_ofWord h]
  rw [infinityWord_eq] at h
  rw [wordBits]
  split <;> omega

theorem isNegative_ofWord (h : w ≤ infinityWord) : isNegative (ofWord negative w) = negative := by
  rw [isNegative, toNat_toBits_ofWord h]
  rw [infinityWord_eq] at h
  rw [wordBits]
  cases negative
  · exact decide_eq_false (by simp only [Bool.false_eq_true, if_false]; omega)
  · exact decide_eq_true (by simp only [if_true]; omega)

end OfWord

/-! ## Comparing -/

/--
A word has its mantissa below its exponent, and the leading bit of the mantissa is counted with the
exponent.
-/
theorem word_eq_magnitude (w : Nat) :
    (w : Int) = ((magnitude w).exponent + 1074) * 2 ^ 52 + (magnitude w).mantissa ∧
      (magnitude w).mantissa < 2 ^ 53 ∧ -1074 ≤ (magnitude w).exponent ∧
      ((magnitude w).exponent = -1074 ∨ 2 ^ 52 ≤ (magnitude w).mantissa) := by
  rcases lt_or_ge w (2 ^ 52) with h | h
  · rw [magnitude_of_lt h]
    refine ⟨?_, ?_, ?_, ?_⟩ <;> dsimp only <;> omega
  · rw [magnitude_of_ge h]
    refine ⟨?_, ?_, ?_, ?_⟩ <;> dsimp only <;> omega

/-- The exponents, and then the mantissas, are ordered as the words are. -/
theorem compare_magnitude (w w' : Nat) :
    (compare (magnitude w).exponent (magnitude w').exponent).then
      (compare (magnitude w).mantissa (magnitude w').mantissa) = compare w w' := by
  obtain ⟨hw, hlt, hleast, hleading⟩ := word_eq_magnitude w
  obtain ⟨hw', hlt', hleast', hleading'⟩ := word_eq_magnitude w'
  rcases lt_trichotomy (magnitude w).exponent (magnitude w').exponent with h | h | h
  · have hword : w < w' := by omega
    rw [compare_lt_iff_lt.2 h, compare_lt_iff_lt.2 hword]
    rfl
  · rw [compare_eq_iff_eq.2 h, Ordering.eq_then]
    rcases lt_trichotomy w w' with hword | hword | hword
    · rw [compare_lt_iff_lt.2 hword, compare_lt_iff_lt]
      omega
    · rw [compare_eq_iff_eq.2 hword, compare_eq_iff_eq]
      omega
    · rw [compare_gt_iff_gt.2 hword, compare_gt_iff_gt]
      omega
  · have hword : w' < w := by omega
    rw [compare_gt_iff_gt.2 h, compare_gt_iff_gt.2 hword]
    rfl

/-- Numbers are ordered as their words with signs are, unless one of them is a NaN. -/
theorem Unpacks.lt_iff {s s' : Sign} {w w' : Nat} {u u' : UnpackedFloat} (h : Unpacks s w u)
    (h' : Unpacks s' w' u') :
    u.lt u' = true ↔ w ≤ infinityWord ∧ w' ≤ infinityWord ∧ s.apply w < s'.apply w' := by
  have hsigns : compare Sign.negative Sign.positive = .lt := rfl
  rw [UnpackedFloat.lt, beq_iff_eq]
  cases h with
  | nan h => exact iff_of_false (fun heq => nomatch heq) (by omega)
  | zero h | finite hm h0 h | infinite h =>
      cases h' with
      | nan h' =>
          refine iff_of_false (fun heq => ?_) (by omega)
          rw [UnpackedFloat.compare] at heq
          · cases heq
          · exact nofun
      | zero h' | finite hm' h0' h' | infinite h' =>
          -- only finite numbers of one sign are compared by more than their shapes and signs
          cases s <;> cases s' <;>
            simp only [UnpackedFloat.compare, Sign.apply, hsigns, compare_magnitude,
              compare_lt_iff_lt, compare_gt_iff_gt, infinityWord_eq, Option.some.injEq,
              Ordering.swap_eq_lt, reduceCtorEq, true_iff, false_iff] at h h' ⊢ <;>
            omega

theorem isNaN_eq_false_iff {x : Float} : isNaN x = false ↔ word x ≤ infinityWord := by
  rw [isNaN, decide_eq_false_iff_not, not_lt]

/-- Comparing is comparing words with their signs. A NaN is neither less nor greater. -/
theorem lt_iff {x y : Float} :
    x < y ↔ isNaN x = false ∧ isNaN y = false ∧ signedWord x < signedWord y := by
  have hmodel : x < y ↔ x.toModel.unpack.lt y.toModel.unpack = true := by
    change decide (x.toModel < y.toModel) = true ↔ _
    rw [decide_eq_true_iff]
    rfl
  rw [hmodel, (unpacks_toModel x).lt_iff (unpacks_toModel y), isNaN_eq_false_iff,
    isNaN_eq_false_iff]
  rfl

end WorkItems.Decimal
