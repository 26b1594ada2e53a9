import WorkItems.Proofs.Decimal.ReadBack
import WorkItems.Proofs.Yaml.Integers
import WorkItems.Proofs.Yaml.PrintedStrings
import WorkItems.Proofs.Yaml.SafeText
/-!
# The texts of numbers

Every number is written as a plain scalar, those that are no numbers included: its characters are
safe wherever they stand, and they are not all dashes and points, as those of a marker are.
-/

namespace WorkItems.Yaml

open Decimal

/-! ## Characters -/

/-- A character that may stand anywhere in a plain scalar and is printed as it is. -/
structure IsNumeral (c : Char) : Prop where
  safe : IsSafe c
  printable : isPrintable c = true

theorem isPrintable_of_isDigit {c : Char} (h : isDigit c = true) : isPrintable c = true := by
  simp only [isDigit, Bool.and_eq_true, decide_eq_true_eq, Char.le_def,
    UInt32.le_iff_toNat_le] at h
  have hlow : 48 ≤ c.toNat := h.1
  have hhigh : c.toNat ≤ 57 := h.2
  simp only [isPrintable, Bool.or_eq_true, Bool.and_eq_true, beq_iff_eq, decide_eq_true_eq]
  omega

theorem isNumeral_of_isDigit {c : Char} (h : isDigit c = true) : IsNumeral c :=
  ⟨isSafe_of_isDigit h, isPrintable_of_isDigit h⟩

theorem isNumeral_of_word {text : List Char}
    (h : ∀ c ∈ text, (isWord c = true ∨ c = '.') ∧ isPrintable c = true) :
    ∀ c ∈ text, IsNumeral c := fun c hc => ⟨isSafe_of_isWord (h c hc).1, (h c hc).2⟩

theorem isNumeral_minus : IsNumeral '-' := ⟨isSafe_of_isWord (.inl (by decide)), by decide⟩

theorem isNumeral_signed (i : Int) : ∀ c ∈ signed i, IsNumeral c :=
  forall_mem_signed (fun _ => isNumeral_of_isDigit) isNumeral_minus i

/-! ## Layouts -/

/--
A layout whose texts are numbers where data is read: a whole number shows a point, an exponent has
no plus, and what is not finite has its name.
-/
structure IsRealLayout (layout : Layout) : Prop where
  wholeEnd : layout.wholeEnd = ".0".toList
  exponentSign : layout.exponentSign = []
  nan : layout.nan = ".nan"
  infinity : layout.infinity = ".inf"

theorem isRealLayout_realLayout : IsRealLayout realLayout := ⟨rfl, rfl, rfl, rfl⟩

section Layouts

variable {layout : Layout}

theorem IsRealLayout.writes (h : IsRealLayout layout) : layout.Writes IsNumeral where
  digit _ := isNumeral_of_isDigit
  minus := isNumeral_minus
  point := ⟨isSafe_of_isWord (.inr rfl), by decide⟩
  letter := ⟨isSafe_of_isWord (.inl (by decide)), by decide⟩
  wholeEnd := h.wholeEnd ▸ isNumeral_of_word (by decide)
  exponentSign := h.exponentSign ▸ fun _ hc => nomatch hc
  nan := h.nan ▸ isNumeral_of_word (by decide)
  infinity := h.infinity ▸ isNumeral_of_word (by decide)

theorem isFinite_of_not {x : Float} (hnan : isNaN x = false) (hinfinite : isInfinite x = false) :
    isFinite x = true := by
  simp only [isNaN, decide_eq_false_iff_not] at hnan
  simp only [isInfinite, beq_eq_false_iff_ne] at hinfinite
  simp only [isFinite, decide_eq_true_eq]
  omega

theorem IsRealLayout.isFraction (h : IsRealLayout layout) {x : Float}
    (hfinite : isFinite x = true) :
    IsFraction (word x)
      (if word x = 0 then '0' :: layout.wholeEnd else layout.finite (word x)) := by
  split
  · rename_i hzero
    rw [hzero]
    exact isFraction_zero h.wholeEnd
  · rename_i hne
    exact isFraction_finite h.wholeEnd h.exponentSign hne (by simpa [isFinite] using hfinite)

end Layouts

theorem isNumeral_numberText (n : Number) : ∀ c ∈ (numberText n).toList, IsNumeral c := by
  cases n with
  | int i =>
      rw [numberText, intText, String.toList_ofList]
      exact isNumeral_signed _
  | uint u =>
      rw [numberText, natText_eq, intText, String.toList_ofList]
      exact isNumeral_signed _
  | float x => exact isRealLayout_realLayout.writes.forall_mem_text x

/-! ## Texts that are no markers -/

/-- A character that neither a marker nor a lone sign has. -/
def IsMark (c : Char) : Prop := c ≠ '-' ∧ c ≠ '.'

theorem isMark_of_isDigit {c : Char} (h : isDigit c = true) : IsMark c :=
  ⟨isDigit_ne h rfl, isDigit_ne h rfl⟩

theorem exists_isMark_signed (i : Int) : ∃ c ∈ signed i, IsMark c := by
  obtain ⟨d, ds, hds⟩ := List.exists_cons_of_ne_nil (digits_ne_nil i.natAbs)
  have hmem : d ∈ digits i.natAbs := hds ▸ List.mem_cons_self ..
  refine ⟨d, ?_, isMark_of_isDigit (isDigit_of_mem_digits hmem)⟩
  rw [signed]
  split
  · exact List.mem_cons_of_mem _ hmem
  · exact hmem

theorem IsRealLayout.exists_isMark_text {layout : Layout} (h : IsRealLayout layout) (x : Float) :
    ∃ c ∈ (layout.text x).toList, IsMark c := by
  have hsigned : ∀ (cs : List Char) (c : Char), c ∈ cs →
      c ∈ (String.ofList (if isNegative x then '-' :: cs else cs)).toList := by
    intro cs c hc
    rw [String.toList_ofList]
    split
    · exact List.mem_cons_of_mem _ hc
    · exact hc
  cases hnan : isNaN x with
  | true =>
      rw [Layout.text, hnan, if_pos rfl, h.nan]
      exact ⟨'n', by decide, by decide, by decide⟩
  | false =>
      rw [Layout.text, hnan, if_neg (by simp)]
      cases hinfinite : isInfinite x with
      | true =>
          rw [if_pos rfl, h.infinity]
          exact ⟨'i', hsigned _ _ (by decide), by decide, by decide⟩
      | false =>
          rw [if_neg (by simp)]
          obtain ⟨d, ds, hmagnitude, hd⟩ := (h.isFraction (isFinite_of_not hnan hinfinite)).starts
          rw [hmagnitude]
          exact ⟨d, hsigned _ _ (List.mem_cons_self ..), isMark_of_isDigit hd⟩

theorem exists_isMark_numberText (n : Number) : ∃ c ∈ (numberText n).toList, IsMark c := by
  cases n with
  | int i =>
      rw [numberText, intText, String.toList_ofList]
      exact exists_isMark_signed _
  | uint u =>
      rw [numberText, natText_eq, intText, String.toList_ofList]
      exact exists_isMark_signed _
  | float x => exact isRealLayout_realLayout.exists_isMark_text x

/-! ## Plain scalars -/

theorem isPlainScalar_of_mark {cs : List Char} (h : ∀ c ∈ cs, IsNumeral c)
    (hmark : ∃ c ∈ cs, IsMark c) (inFlow : Bool) : IsPlainScalar inFlow cs := by
  obtain ⟨c, hc, hmark⟩ := hmark
  refine isPlainScalar_of_safe (fun c hc => (h c hc).safe) (List.ne_nil_of_mem hc) (fun hdash => ?_)
    inFlow
  rw [hdash] at hc
  exact hmark.1 (List.mem_singleton.1 hc)

theorem isPlainScalar_numberText (n : Number) (inFlow : Bool) :
    IsPlainScalar inFlow (numberText n).toList :=
  isPlainScalar_of_mark (isNumeral_numberText n) (exists_isMark_numberText n) inFlow

theorem atMarker_numberText (n : Number) : atMarker (numberText n).toList = false := by
  obtain ⟨c, hc, hmark⟩ := exists_isMark_numberText n
  have hsafe := isNumeral_numberText n
  rw [Bool.eq_false_iff, Ne, atMarker_iff]
  rintro ⟨rest, hrest, hgap⟩
  -- Behind a marker there is a gap, and no character of a number is one.
  obtain rfl : rest = [] := by
    cases rest with
    | nil => rfl
    | cons d ds =>
        have hd : d ∈ (numberText n).toList := by
          rcases hrest with h | h <;> simp [h]
        exact absurd hgap (by simpa [atGap] using (hsafe d hd).safe.gap)
  rcases hrest with h | h
  · rw [h] at hc
    exact hmark.1 (by simpa using hc)
  · rw [h] at hc
    exact hmark.2 (by simpa using hc)

end WorkItems.Yaml
