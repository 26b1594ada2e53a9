import Mathlib
import WorkItems.Proofs.Yaml.NumberTexts
/-!
# Floating-point numbers as plain scalars

The text of a floating-point number is read as that number, unless it is none. It is no integer, as
it has a point or an exponent, or is the name of an infinity.
-/

namespace WorkItems.Yaml

open Decimal

/-! ## Words -/

/-- A number is its sign and its word. -/
theorem ofWord_word (x : Float) : ofWord (isNegative x) (word x) = x := by
  have hlt : x.toBits.toNat < 2 ^ 64 := x.toBits.toNat_lt
  have hbits : (if isNegative x then word x + 2 ^ wordBits else word x) = x.toBits.toNat := by
    by_cases hneg : 2 ^ wordBits ≤ x.toBits.toNat
    · have hsign : isNegative x = true := decide_eq_true hneg
      rw [if_pos hsign, word]
      simp only [wordBits] at hneg ⊢
      omega
    · have hsign : isNegative x = false := decide_eq_false hneg
      rw [hsign, if_neg (by simp), word]
      simp only [wordBits] at hneg ⊢
      omega
  rw [ofWord, hbits, UInt64.ofNat_toNat, Float.ofBits_toBits]

/-! ## Texts that are no integers -/

section Fraction

variable {w : Nat} {cs : List Char}

theorem foldlM_eq_none {cs : List Char} {c : Char} (hc : c ∈ cs) (hnone : digitIn? 10 c = none) :
    ∀ start : Nat, cs.foldlM (fun n c => (digitIn? 10 c).map (n * 10 + ·)) start = none := by
  induction cs with
  | nil => cases hc
  | cons d ds ih =>
      intro start
      rw [List.foldlM_cons]
      rcases List.mem_cons.1 hc with rfl | hc
      · rw [hnone]
        rfl
      · cases hd : digitIn? 10 d with
        | none => rfl
        | some v => exact ih hc _

theorem readInBase?_eq_none {c : Char} (hc : c ∈ cs) (hnone : digitIn? 10 c = none) :
    readInBase? 10 cs = none := by
  rw [readInBase?]
  split
  · rfl
  · exact foldlM_eq_none hc hnone 0

/-- The point or the letter that makes a text no integer. -/
theorem exists_mark (h : IsFraction w cs) : ∃ c ∈ cs, digitIn? 10 c = none ∧ isDigit c = false := by
  rcases h.fractional with hmem | hmem
  · exact ⟨'.', hmem, by decide, by decide⟩
  · exact ⟨'e', hmem, by decide, by decide⟩

/-- Behind a base sign there is no fraction. -/
theorem readBased?_of_isFraction (h : IsFraction w cs) : readBased? cs = none := by
  obtain ⟨p, hp, -⟩ := h.reads
  have hsign : ∀ (c : Char) (ds : List Char), isDigit c = false → c ≠ '.' → c ≠ 'e' → c ≠ 'E' →
      cs ≠ '0' :: c :: ds := by
    rintro c ds hdigit hpoint hlower hupper rfl
    simp [readParts?, hdigit, hpoint, readExponent?,
      hlower, hupper, show isDigit '0' = true from rfl] at hp
  unfold readBased?
  split
  · exact absurd rfl (hsign _ _ (by decide) (by decide) (by decide) (by decide))
  · exact absurd rfl (hsign _ _ (by decide) (by decide) (by decide) (by decide))
  · exact absurd rfl (hsign _ _ (by decide) (by decide) (by decide) (by decide))
  · rfl

theorem readInteger?_of_isFraction (h : IsFraction w cs) (negative : Bool) :
    readInteger? (if negative then '-' :: cs else cs) = none := by
  obtain ⟨c, hc, hnone, -⟩ := exists_mark h
  obtain ⟨d, ds, rfl, hd⟩ := h.starts
  have hbased := readBased?_of_isFraction h
  have hdecimal := readInBase?_eq_none hc hnone
  have hplus : d ≠ '+' := isDigit_ne hd rfl
  have hminus : d ≠ '-' := isDigit_ne hd rfl
  cases negative with
  | false =>
      have hnatural : readNatural? (d :: ds) = none := by
        simp [readNatural?, hplus, hbased, hdecimal]
      have hnegated : readNegated? (d :: ds) = none := by
        unfold readNegated?
        split
        · rename_i heq
          exact absurd (List.cons.inj heq).1 hminus
        · rfl
      rw [if_neg (by simp), readInteger?, hnatural, hnegated]
      rfl
  | true =>
      have hsigned := readInBase?_eq_none (List.mem_cons_of_mem '-' hc) hnone
      have hnatural : readNatural? ('-' :: d :: ds) = none := by
        simp [readNatural?, readBased?, hsigned]
      have hnegated : readNegated? ('-' :: d :: ds) = none := by
        simp [readNegated?, hbased, hdecimal]
      rw [if_pos rfl, readInteger?, hnatural, hnegated]
      rfl

theorem hasLeadingZero_of_isFraction (h : IsFraction w cs) (negative : Bool) :
    hasLeadingZero (if negative then '-' :: cs else cs) = false := by
  obtain ⟨c, hc, -, hnone⟩ := exists_mark h
  obtain ⟨d, ds, rfl, hd⟩ := h.starts
  have hplus : d ≠ '+' := isDigit_ne hd rfl
  have hminus : d ≠ '-' := isDigit_ne hd rfl
  have hrest : ∀ e es, ds = e :: es → (e :: es).all isDigit = false := by
    rintro e es rfl
    have hmem : c ∈ e :: es := (List.mem_cons.1 hc).resolve_left (by rintro rfl; simp [hd] at hnone)
    exact List.all_eq_false.2 ⟨c, hmem, by simp [hnone]⟩
  by_cases hzero : d = '0'
  · subst hzero
    cases ds with
    | nil => cases negative <;> rfl
    | cons e es => cases negative <;> exact hrest e es rfl
  · cases negative <;> simp [hasLeadingZero, hzero, hplus, hminus]

/-- A fraction is read as the number with its word. -/
theorem readReal?_of_isFraction {x : Float} (h : IsFraction w cs) (negative : Bool)
    (hx : ofWord negative w = x) (hfinite : isFinite x = true) :
    readReal? (if negative then '-' :: cs else cs) = some x := by
  have hread := h.readFloat? negative
  have hfiltered : readFinite? (if negative then '-' :: cs else cs) = some x := by
    rw [readFinite?, hread, hx, Option.filter_some, if_pos hfinite]
  obtain ⟨d, ds, rfl, hd⟩ := h.starts
  have hplus : d ≠ '+' := isDigit_ne hd rfl
  have hpoint : d ≠ '.' := isDigit_ne hd rfl
  have hminus : d ≠ '-' := isDigit_ne hd rfl
  cases negative with
  | false =>
      rw [if_neg (by simp)] at hfiltered ⊢
      simp [readReal?, hplus, hpoint.symm, hminus, hpoint, hfiltered]
  | true =>
      rw [if_pos rfl] at hfiltered ⊢
      simp [readReal?, hpoint, hfiltered]

theorem resolve_of_isFraction {x : Float} (h : IsFraction w cs) (negative : Bool)
    (hx : ofWord negative w = x) (hfinite : isFinite x = true) :
    resolve (if negative then '-' :: cs else cs) = .number (.float x) := by
  have hinteger := readInteger?_of_isFraction h negative
  have hzero := hasLeadingZero_of_isFraction h negative
  have hreal := readReal?_of_isFraction h negative hx hfinite
  obtain ⟨c, ds, hcs, hc⟩ : ∃ c ds, (if negative then '-' :: cs else cs) = c :: ds ∧
      (isDigit c = true ∨ c = '-') := by
    obtain ⟨d, ds, rfl, hd⟩ := h.starts
    cases negative with
    | false => exact ⟨d, ds, rfl, .inl hd⟩
    | true => exact ⟨'-', _, rfl, .inr rfl⟩
  rw [hcs] at hinteger hzero hreal ⊢
  obtain ⟨hnull, hbool⟩ := not_word ds hc
  simp [resolve, hnull, hbool, hinteger, hzero, hreal]

end Fraction

/-! ## The text of a number -/

/-- A floating-point number is read as it was written, in any layout of numbers. -/
theorem IsRealLayout.resolve_text {layout : Layout} (h : IsRealLayout layout) {x : Float}
    (hx : isNaN x = false) : resolve (layout.text x).toList = .number (.float x) := by
  have hword := ofWord_word x
  cases hinfinite : isInfinite x with
  | true =>
      have hisInfinite : word x = infinityWord := by simpa [isInfinite] using hinfinite
      rw [hisInfinite] at hword
      rw [Layout.text, hx, hinfinite, h.infinity]
      simp only [Bool.false_eq_true, if_false, if_true, String.toList_ofList]
      cases hneg : isNegative x with
      | false =>
          rw [hneg] at hword
          exact congrArg (Resolved.number ∘ Number.float) hword
      | true =>
          rw [hneg] at hword
          exact congrArg (Resolved.number ∘ Number.float) hword
  | false =>
      have hfinite := isFinite_of_not hx hinfinite
      rw [Layout.text, hx, hinfinite]
      simp only [Bool.false_eq_true, if_false, String.toList_ofList]
      exact resolve_of_isFraction (h.isFraction hfinite) _ hword hfinite

theorem resolve_realText {x : Float} (hx : isNaN x = false) :
    resolve (realLayout.text x).toList = .number (.float x) :=
  isRealLayout_realLayout.resolve_text hx

end WorkItems.Yaml
