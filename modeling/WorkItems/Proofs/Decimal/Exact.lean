import WorkItems.Proofs.Decimal.Order
/-!
# Exact values

A finite number is a rational number, and the two infinities lie beyond all of them (`exactValue?`).
The next word is one unit of the last place greater, also where the exponent changes, so the values
of words grow with them (`wordValue_strictMono`) and numbers are ordered as their exact values are
(`lt_iff_of_exactValue?`).
-/

namespace WorkItems.Decimal

open Float.Model.UnpackedFloat

/-! ## Values of words -/

/-- The value of a finite word. -/
def wordValue (w : Nat) : ℚ := (magnitude w).mantissa * 2 ^ (magnitude w).exponent

/--
One exponent above that of a mantissa with its leading bit, the same value has half of the mantissa.
-/
theorem wordValue_of_exponent {k m : Nat} (hm : m ≤ 2 ^ 53) (hleading : k = 0 ∨ 2 ^ 52 ≤ m) :
    wordValue (k * 2 ^ 52 + m) = m * 2 ^ ((k : Int) - 1074) := by
  rcases Nat.lt_or_ge m (2 ^ 52) with hsmall | hlarge
  · obtain rfl : k = 0 := by omega
    rw [Nat.zero_mul, Nat.zero_add, wordValue, magnitude_of_lt hsmall]
    rfl
  · rw [wordValue, magnitude_of_ge (by omega)]
    rcases Nat.lt_or_ge m (2 ^ 53) with hlt | hge
    · have hquotient : (k * 2 ^ 52 + m) / 2 ^ 52 = k + 1 := by omega
      have hremainder : 2 ^ 52 + (k * 2 ^ 52 + m) % 2 ^ 52 = m := by omega
      rw [hquotient, hremainder]
      congr 2
      push_cast
      ring
    · have hquotient : (k * 2 ^ 52 + m) / 2 ^ 52 = k + 2 := by omega
      have hremainder : 2 ^ 52 + (k * 2 ^ 52 + m) % 2 ^ 52 = 2 ^ 52 := by omega
      obtain rfl : m = 2 ^ 53 := by omega
      rw [hquotient, hremainder]
      have hexponent : ((k + 2 : Nat) : Int) - 1075 = ((k : Int) - 1074) + 1 := by
        push_cast
        ring
      rw [hexponent, zpow_add_one₀ two_ne_zero]
      push_cast
      ring

/-- The next word is one unit of the last place greater. -/
theorem wordValue_succ (w : Nat) :
    wordValue (w + 1) = wordValue w + 2 ^ (magnitude w).exponent := by
  obtain ⟨hw, hlt, hleast, hleading⟩ := word_eq_magnitude w
  obtain ⟨k, hk⟩ : ∃ k : Nat, (magnitude w).exponent = (k : Int) - 1074 :=
    ⟨((magnitude w).exponent + 1074).toNat, by omega⟩
  have hnext : w + 1 = k * 2 ^ 52 + ((magnitude w).mantissa + 1) := by omega
  rw [hnext, wordValue_of_exponent (by omega) (by omega), wordValue, hk]
  push_cast
  ring

theorem wordValue_strictMono : StrictMono wordValue := by
  refine strictMono_nat_of_lt_succ fun w => ?_
  rw [wordValue_succ]
  exact lt_add_of_pos_right _ (by positivity)

theorem wordValue_zero : wordValue 0 = 0 := by
  rw [wordValue, magnitude_of_lt (Nat.two_pow_pos _), Nat.cast_zero, zero_mul]

theorem wordValue_nonneg (w : Nat) : 0 ≤ wordValue w := by
  rw [← wordValue_zero]
  exact wordValue_strictMono.monotone (Nat.zero_le w)

/-! ## Values of numbers -/

/-- The value of a finite number. -/
def rational (x : Float) : ℚ := if isNegative x then -wordValue (word x) else wordValue (word x)

/--
The exact value of a number: an infinity lies beyond all rational numbers, and a NaN has none.
-/
noncomputable def exactValue? (x : Float) : Option EReal :=
  if isNaN x then none
  else if isInfinite x then some (if isNegative x then ⊥ else ⊤)
  else some ((rational x : ℝ) : EReal)

variable {x y : Float} {v u : EReal}

theorem signedWord_eq (x : Float) :
    signedWord x = if isNegative x then -(word x : Int) else word x := by
  rw [signedWord, sign]
  split <;> rfl

theorem rational_lt_rational_iff : rational x < rational y ↔ signedWord x < signedWord y := by
  have hx := wordValue_nonneg (word x)
  have hy := wordValue_nonneg (word y)
  have hlt : wordValue (word x) < wordValue (word y) ↔ word x < word y :=
    wordValue_strictMono.lt_iff_lt
  have hgt : wordValue (word y) < wordValue (word x) ↔ word y < word x :=
    wordValue_strictMono.lt_iff_lt
  have hzero : ∀ w, 0 < wordValue w ↔ 0 < w := by
    intro w
    rw [← wordValue_zero]
    exact wordValue_strictMono.lt_iff_lt
  rw [signedWord_eq, signedWord_eq, rational, rational]
  cases isNegative x <;> cases isNegative y <;> simp only [Bool.false_eq_true, if_false, if_true]
  · rw [hlt, Int.ofNat_lt]
  · exact iff_of_false (by linarith) (by omega)
  · constructor
    · intro h
      by_contra hle
      have hwx : word x = 0 := by omega
      have hwy : word y = 0 := by omega
      rw [hwx, hwy, wordValue_zero, neg_zero] at h
      exact lt_irrefl _ h
    · intro h
      rcases (by omega : 0 < word x ∨ 0 < word y) with hpos | hpos
      · linarith [(hzero _).2 hpos]
      · linarith [(hzero _).2 hpos]
  · rw [neg_lt_neg_iff, hgt, neg_lt_neg_iff, Int.ofNat_lt]

theorem exactValue?_eq_some_iff : exactValue? x = some v ↔ isNaN x = false ∧
    (if isInfinite x then (if isNegative x then ⊥ else ⊤) else ((rational x : ℝ) : EReal)) = v := by
  rw [exactValue?]
  cases isNaN x <;> cases isInfinite x <;> simp

theorem exactValue?_eq_none_iff : exactValue? x = none ↔ isNaN x = true := by
  rw [exactValue?]
  cases isNaN x <;> cases isInfinite x <;> simp

theorem exactValue?_of_isFinite (h : isFinite x = true) :
    exactValue? x = some ((rational x : ℝ) : EReal) := by
  have hlt : word x < infinityWord := of_decide_eq_true h
  have hinfinite : ¬isInfinite x = true := by
    rw [isInfinite, beq_iff_eq]
    exact hlt.ne
  exact exactValue?_eq_some_iff.2 ⟨isNaN_eq_false_iff.2 hlt.le, if_neg hinfinite⟩

/-- A value that is a real number belongs to a finite number. -/
theorem isFinite_of_exactValue? (hx : exactValue? x = some v) (hbot : v ≠ ⊥) (htop : v ≠ ⊤) :
    isFinite x = true ∧ v = ((rational x : ℝ) : EReal) := by
  obtain ⟨hnan, rfl⟩ := exactValue?_eq_some_iff.1 hx
  have hle := isNaN_eq_false_iff.1 hnan
  by_cases hinfinite : isInfinite x = true
  · rw [if_pos hinfinite] at hbot htop
    cases hneg : isNegative x
    · rw [hneg] at htop
      exact absurd rfl htop
    · rw [hneg] at hbot
      exact absurd rfl hbot
  · rw [if_neg hinfinite]
    rw [isInfinite, beq_iff_eq] at hinfinite
    exact ⟨decide_eq_true (hle.lt_of_ne hinfinite), rfl⟩

/-- Numbers with exact values are ordered as these are. -/
theorem lt_iff_of_exactValue? (hx : exactValue? x = some v) (hy : exactValue? y = some u) :
    x < y ↔ v < u := by
  obtain ⟨hnx, rfl⟩ := exactValue?_eq_some_iff.1 hx
  obtain ⟨hny, rfl⟩ := exactValue?_eq_some_iff.1 hy
  have hinfinite : ∀ z : Float, isInfinite z = true ↔ word z = infinityWord := fun z => beq_iff_eq
  have hfinite : ∀ z : Float, isNaN z = false → ¬isInfinite z = true →
      -(infinityWord : Int) < signedWord z ∧ signedWord z < infinityWord := by
    intro z hnz hiz
    rw [isNaN_eq_false_iff] at hnz
    rw [hinfinite] at hiz
    rw [signedWord_eq]
    split <;> omega
  rw [lt_iff, and_iff_right hnx, and_iff_right hny]
  by_cases hix : isInfinite x = true <;> by_cases hiy : isInfinite y = true
  · rw [if_pos hix, if_pos hiy, signedWord_eq, signedWord_eq, (hinfinite x).1 hix,
      (hinfinite y).1 hiy]
    cases isNegative x <;> cases isNegative y <;> simp [infinityWord_eq]
  · obtain ⟨hlow, hhigh⟩ := hfinite y hny hiy
    rw [if_pos hix, if_neg hiy, signedWord_eq, (hinfinite x).1 hix]
    cases isNegative x
    · exact iff_of_false (by simpa using le_of_lt hhigh) not_top_lt
    · exact iff_of_true (by simpa using hlow) (EReal.bot_lt_coe _)
  · obtain ⟨hlow, hhigh⟩ := hfinite x hnx hix
    rw [if_neg hix, if_pos hiy, signedWord_eq y, (hinfinite y).1 hiy]
    cases isNegative y
    · exact iff_of_true (by simpa using hhigh) (EReal.coe_lt_top _)
    · exact iff_of_false (by simpa using le_of_lt hlow) not_lt_bot
  · rw [if_neg hix, if_neg hiy, EReal.coe_lt_coe_iff, Rat.cast_lt, rational_lt_rational_iff]

/-- A number that is not less than another has no smaller value, where both have one. -/
theorem not_lt_iff : ¬x < y ↔ ∀ v u, exactValue? x = some v → exactValue? y = some u → u ≤ v := by
  cases hx : exactValue? x with
  | none =>
      have hnan := exactValue?_eq_none_iff.1 hx
      refine iff_of_true (fun hlt => ?_) fun v u hv => nomatch hv
      rw [(lt_iff.1 hlt).1] at hnan
      cases hnan
  | some v =>
      cases hy : exactValue? y with
      | none =>
          have hnan := exactValue?_eq_none_iff.1 hy
          refine iff_of_true (fun hlt => ?_) fun v u _ hu => nomatch hu
          rw [(lt_iff.1 hlt).2.1] at hnan
          cases hnan
      | some u =>
          rw [lt_iff_of_exactValue? hx hy, not_lt]
          constructor
          · rintro hle _ _ ⟨⟩ ⟨⟩
            exact hle
          · intro hall
            exact hall v u rfl rfl

end WorkItems.Decimal
