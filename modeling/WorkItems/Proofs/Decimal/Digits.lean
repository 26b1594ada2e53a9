import WorkItems.Number
/-!
# Digits and what they stand for

`digits` and `value` undo each other: the digits of a number are decimal digits, there is at least
one, none but the digit of zero itself is a leading zero, and their value is the number. So numbers
with the same digits are the same, and with a sign in front of them so are integers.
-/

namespace WorkItems.Decimal

/-! ## Single digits -/

theorem isDigit_digitChar {d : Nat} (h : d < 10) : isDigit (digitChar d) = true := by
  have hall : ∀ d < 10, isDigit (digitChar d) = true := by decide
  exact hall d h

theorem digitValue_digitChar {d : Nat} (h : d < 10) : digitValue (digitChar d) = d := by
  have hall : ∀ d < 10, digitValue (digitChar d) = d := by decide
  exact hall d h

/-- A digit is the character of its value. -/
theorem digitChar_digitValue {c : Char} (h : isDigit c = true) : digitChar (digitValue c) = c := by
  have hzero : '0'.toNat ≤ c.toNat := by
    simp only [isDigit, Bool.and_eq_true, decide_eq_true_eq, Char.le_def,
      UInt32.le_iff_toNat_le] at h
    exact h.1
  rw [digitChar, digitValue, Nat.add_sub_cancel' hzero, Char.ofNat_toNat]

theorem digitChar_ne_zero {d : Nat} (h : d < 10) (hd : d ≠ 0) : digitChar d ≠ '0' := by
  have hall : ∀ d < 10, d ≠ 0 → digitChar d ≠ '0' := by decide
  exact hall d h hd

/-! ## The value of a text of digits -/

theorem value_nil : value [] = 0 := rfl

theorem foldl_value (start : Nat) (cs : List Char) :
    cs.foldl (fun n c => n * 10 + digitValue c) start = start * 10 ^ cs.length + value cs := by
  induction cs generalizing start with
  | nil => simp [value]
  | cons c cs ih =>
      have hv : value (c :: cs) = (0 * 10 + digitValue c) * 10 ^ cs.length + value cs := ih _
      rw [List.foldl_cons, ih, hv, List.length_cons, Nat.pow_succ]
      grind

theorem value_cons (c : Char) (cs : List Char) :
    value (c :: cs) = digitValue c * 10 ^ cs.length + value cs := by
  rw [value, List.foldl_cons, foldl_value]
  simp

theorem value_append (cs ds : List Char) :
    value (cs ++ ds) = value cs * 10 ^ ds.length + value ds := by
  rw [value, List.foldl_append, foldl_value]
  rfl

theorem digitValue_lt {c : Char} (h : isDigit c = true) : digitValue c < 10 := by
  simp only [isDigit, Bool.and_eq_true, decide_eq_true_eq, Char.le_def, UInt32.le_iff_toNat_le] at h
  have hnine : c.toNat ≤ 57 := h.2
  have hzero : '0'.toNat = 48 := rfl
  rw [digitValue, hzero]
  omega

theorem value_lt_pow {cs : List Char} (h : ∀ c ∈ cs, isDigit c = true) :
    value cs < 10 ^ cs.length := by
  induction cs with
  | nil => exact Nat.one_pos
  | cons c cs ih =>
      have hc := digitValue_lt (h c List.mem_cons_self)
      have hcs := ih fun d hd => h d (List.mem_cons_of_mem _ hd)
      calc value (c :: cs) = digitValue c * 10 ^ cs.length + value cs := value_cons c cs
        _ < (digitValue c + 1) * 10 ^ cs.length := by rw [Nat.add_mul, Nat.one_mul]; omega
        _ ≤ 10 * 10 ^ cs.length := Nat.mul_le_mul_right _ hc
        _ = 10 ^ (c :: cs).length := (Nat.pow_succ' ..).symm

/-! ## Writing -/

/-- Digits that are already there stay behind the new ones. -/
theorem writeDigits_append (fuel n : Nat) (acc : List Char) :
    writeDigits fuel n acc = writeDigits fuel n [] ++ acc := by
  induction fuel generalizing n acc with
  | zero => rfl
  | succ fuel ih =>
      simp only [writeDigits]
      split
      · rfl
      · rw [ih _ (digitChar (n % 10) :: acc), ih _ [digitChar (n % 10)], List.append_assoc]
        rfl

theorem writeDigits_succ (fuel n : Nat) :
    writeDigits (fuel + 1) n [] =
      if n < 10 then [digitChar n] else writeDigits fuel (n / 10) [] ++ [digitChar (n % 10)] := by
  rw [writeDigits]
  split
  · rename_i h
    rw [Nat.mod_eq_of_lt h]
  · exact writeDigits_append _ _ _

/-- More fuel than a number has digits changes nothing. -/
theorem writeDigits_eq {fuel n : Nat} (h : n < 10 ^ fuel) (hf : fuel ≠ 0) :
    writeDigits fuel n [] = digits n := by
  have key : ∀ fuel fuel' n, n < 10 ^ fuel → n < 10 ^ fuel' → fuel ≠ 0 → fuel' ≠ 0 →
      writeDigits fuel n [] = writeDigits fuel' n [] := by
    intro fuel
    induction fuel with
    | zero => exact fun _ _ _ _ h => absurd rfl h
    | succ fuel ih =>
        intro fuel' n h h' _ hf'
        obtain ⟨fuel', rfl⟩ := Nat.exists_eq_succ_of_ne_zero hf'
        simp only [Nat.succ_eq_add_one, writeDigits_succ]
        split
        · rfl
        · rename_i hn
          rw [Nat.pow_succ] at h h'
          have hne : fuel ≠ 0 := by rintro rfl; omega
          have hne' : fuel' ≠ 0 := by rintro rfl; omega
          rw [ih fuel' (n / 10) (by omega) (by omega) hne hne']
  refine key _ _ n h ?_ hf (by omega)
  calc n < 2 ^ (n.log2 + 1) := Nat.lt_log2_self
    _ ≤ 10 ^ (n.log2 + 1) := Nat.pow_le_pow_left (by omega) _

theorem digits_of_lt {n : Nat} (h : n < 10) : digits n = [digitChar n] := by
  rw [digits, writeDigits_succ, if_pos h]

/-- The last digit stands behind the digits of the tenth part. -/
theorem digits_of_ge {n : Nat} (h : 10 ≤ n) :
    digits n = digits (n / 10) ++ [digitChar (n % 10)] := by
  have hlog : n.log2 ≠ 0 := by
    intro h0
    have := Nat.lt_log2_self (n := n)
    rw [h0] at this
    omega
  rw [digits, writeDigits_succ, if_neg (by omega), writeDigits_eq _ hlog]
  have h2 : n < 2 ^ (n.log2 + 1) := Nat.lt_log2_self
  have h10 : 2 ^ n.log2 ≤ 10 ^ n.log2 := Nat.pow_le_pow_left (by omega) _
  rw [Nat.pow_succ] at h2
  omega

theorem digits_induction {P : Nat → Prop} (small : ∀ n, n < 10 → P n)
    (step : ∀ n, 10 ≤ n → P (n / 10) → P n) (n : Nat) : P n := by
  induction n using Nat.strongRecOn with
  | ind n ih =>
      by_cases h : n < 10
      · exact small n h
      · exact step n (by omega) (ih (n / 10) (by omega))

theorem isDigit_of_mem_digits {n : Nat} {c : Char} (h : c ∈ digits n) : isDigit c = true := by
  induction n using digits_induction with
  | small n hn =>
      rw [digits_of_lt hn, List.mem_singleton] at h
      exact h ▸ isDigit_digitChar hn
  | step n hn ih =>
      rw [digits_of_ge hn, List.mem_append, List.mem_singleton] at h
      rcases h with h | rfl
      · exact ih h
      · exact isDigit_digitChar (Nat.mod_lt _ (by omega))

theorem digits_ne_nil (n : Nat) : digits n ≠ [] := by
  by_cases h : n < 10
  · simp [digits_of_lt h]
  · simp [digits_of_ge (n := n) (by omega)]

theorem value_digits (n : Nat) : value (digits n) = n := by
  induction n using digits_induction with
  | small n hn => simp [digits_of_lt hn, value_cons, value_nil, digitValue_digitChar hn]
  | step n hn ih =>
      rw [digits_of_ge hn, value_append, ih, value_cons, value_nil,
        digitValue_digitChar (Nat.mod_lt _ (by omega))]
      simp
      omega

/-- A number other than zero does not start with the digit zero. -/
theorem head?_digits_ne_zero {n : Nat} (h : n ≠ 0) : (digits n).head? ≠ some '0' := by
  induction n using digits_induction with
  | small n hn => simpa [digits_of_lt hn] using digitChar_ne_zero hn h
  | step n hn ih =>
      have htenth := ih (by omega)
      rw [digits_of_ge hn, List.head?_append]
      cases hd : digits (n / 10) with
      | nil => exact absurd hd (digits_ne_nil _)
      | cons d ds => simpa [hd] using htenth

/-- Digits are those of the number that they denote, unless there is a zero in front of others. -/
theorem digits_value {cs : List Char} (hne : cs ≠ []) (hdigits : ∀ c ∈ cs, isDigit c = true)
    (hzero : cs.length = 1 ∨ cs.head? ≠ some '0') : digits (value cs) = cs := by
  induction hlength : cs.length generalizing cs with
  | zero => exact absurd (List.length_eq_zero_iff.1 hlength) hne
  | succ k ih =>
      obtain rfl | ⟨ds, c, rfl⟩ := List.eq_nil_or_concat cs
      · exact absurd rfl hne
      rw [List.concat_eq_append] at hdigits hzero hlength ⊢
      have hc : isDigit c = true := hdigits c (by simp)
      have hlt := digitValue_lt hc
      have hvalue : value (ds ++ [c]) = value ds * 10 + digitValue c := by
        simp [value_append, value_cons, value_nil]
      by_cases hds : ds = []
      · rw [hds, List.nil_append, value_cons, value_nil, List.length_nil, Nat.pow_zero, Nat.mul_one,
          Nat.add_zero, digits_of_lt hlt, digitChar_digitValue hc]
      · have hhead : ds.head? ≠ some '0' := by
          rcases hzero with hone | hhead
          · simp [hds] at hone
          · rwa [List.head?_append, Option.or_of_isSome (by simpa using hds)] at hhead
        have hfirst : digits (value ds) = ds :=
          ih hds (fun d hd => hdigits d (List.mem_append_left _ hd)) (.inr hhead)
            (by simpa using hlength)
        have hpos : value ds ≠ 0 := by
          intro h0
          rw [h0] at hfirst
          exact hhead (by rw [← hfirst]; decide)
        have htenth : (value ds * 10 + digitValue c) / 10 = value ds := by omega
        have hlast : (value ds * 10 + digitValue c) % 10 = digitValue c := by omega
        rw [hvalue, digits_of_ge (by omega), htenth, hlast, hfirst, digitChar_digitValue hc]

theorem value_zeros_append (k : Nat) (ds : List Char) :
    value (List.replicate k '0' ++ ds) = value ds := by
  induction k with
  | zero => rfl
  | succ k ih =>
      rw [List.replicate_succ, List.cons_append, value_cons, ih]
      simp [digitValue]

theorem length_digits_le {width n : Nat} (h : n < 10 ^ width) (hwidth : width ≠ 0) :
    (digits n).length ≤ width := by
  induction n using digits_induction generalizing width with
  | small n hn =>
      rw [digits_of_lt hn, List.length_singleton]
      omega
  | step n hn ih =>
      obtain ⟨width, rfl⟩ := Nat.exists_eq_succ_of_ne_zero hwidth
      rw [Nat.succ_eq_add_one, Nat.pow_succ] at h
      have hne : width ≠ 0 := by
        rintro rfl
        omega
      have hlt : n / 10 < 10 ^ width := by omega
      have htenth := ih hlt hne
      rw [digits_of_ge hn, List.length_append, List.length_singleton]
      omega

/-! ## Texts of integers -/

theorem digits_injective : Function.Injective digits := by
  intro m n h
  rw [← value_digits m, h, value_digits]

/-- Digits have no sign in front. -/
theorem digits_ne_minus (n : Nat) (cs : List Char) : digits n ≠ '-' :: cs := by
  intro h
  have hdigit : isDigit '-' = true := isDigit_of_mem_digits (n := n) (h ▸ List.mem_cons_self)
  cases hdigit

theorem signed_injective : Function.Injective signed := by
  intro i j h
  rw [signed, signed] at h
  split at h <;> split at h
  · have hnat := digits_injective (List.cons.inj h).2
    omega
  · exact absurd h.symm (digits_ne_minus _ _)
  · exact absurd h (digits_ne_minus _ _)
  · have hnat := digits_injective h
    omega

/-- The text of a natural number is that of an integer. -/
theorem natText_eq (n : Nat) : natText n = intText n := by
  rw [natText, intText, signed, if_neg (by omega), Int.natAbs_natCast]

end WorkItems.Decimal
