import WorkItems.Proofs.Decimal.Layout
import WorkItems.Proofs.Yaml.BlockScalars
/-!
# Texts that are plain scalars anywhere

Words and numbers are made of characters that mean nothing to the lexer, so they are plain scalars
inside and outside of flow collections.
-/

namespace WorkItems.Yaml

open Lexer

/-- A character that neither separates nor indicates anything. -/
structure IsSafe (c : Char) : Prop where
  gap : isSpaceOrBreak c = false
  indicator : isIndicator c = false
  colon : c ≠ ':'
  question : c ≠ '?'

theorem isSafe_of_isWord {c : Char} (h : isWord c = true ∨ c = '.') : IsSafe c := by
  have hne : ∀ d, isWord d = false → d ≠ '.' → c ≠ d := by
    rintro d hd hdot rfl
    rcases h with h | h
    · exact absurd h (by simp [hd])
    · exact hdot h
  have hindicator : isIndicator c = false := by
    rw [isIndicator, List.contains_eq_mem, decide_eq_false_iff_not]
    intro hmem
    have hword : ∀ d ∈ ",[]\x7b\x7d#&*!|>'\"%@\x60".toList, isWord d = false ∧ d ≠ '.' := by
      decide
    exact hne c (hword c hmem).1 (hword c hmem).2 rfl
  exact {
    gap := by
      simp [isSpaceOrBreak, isSpace, isBreak, hne ' ' (by decide) (by decide),
        hne '\t' (by decide) (by decide), hne '\n' (by decide) (by decide),
        hne '\r' (by decide) (by decide), hne '\u0085' (by decide) (by decide),
        hne '\u2028' (by decide) (by decide), hne '\u2029' (by decide) (by decide)]
    indicator := hindicator
    colon := hne ':' (by decide) (by decide)
    question := hne '?' (by decide) (by decide) }

theorem IsSafe.isPlain {text : List Char} (h : ∀ c ∈ text, IsSafe c) (inFlow : Bool) :
    IsPlain inFlow text where
  noBreak c hc := by
    have hgap := (h c hc).gap
    rw [isSpaceOrBreak, Bool.or_eq_false_iff] at hgap
    exact hgap.2
  noTab htab := absurd (h _ htab).gap (by decide)
  noIndicator := by
    induction text with
    | nil => rfl
    | cons c cs ih =>
        have hc := h c (List.mem_cons_self ..)
        rw [hasInnerIndicator, ih fun d hd => h d (List.mem_cons_of_mem _ hd)]
        simp [hc.gap, hc.colon]
  inFlow _ c hc := by
    have hne : ∀ d, isIndicator d = true → c ≠ d := by
      rintro d hd rfl
      exact absurd hd (by simp [(h _ hc).indicator])
    refine ⟨?_, (h c hc).colon⟩
    simp [isFlowIndicator, hne ',' (by decide), hne '[' (by decide), hne ']' (by decide),
      hne '{' (by decide), hne '}' (by decide)]

/-- A text of safe characters is a plain scalar, unless it is a dash. -/
theorem isPlainScalar_of_safe {text : List Char} (h : ∀ c ∈ text, IsSafe c) (hne : text ≠ [])
    (hdash : text ≠ ['-']) (inFlow : Bool) : IsPlainScalar inFlow text where
  toIsPlain := IsSafe.isPlain h inFlow
  start := by
    obtain ⟨c, cs, rfl⟩ := List.exists_cons_of_ne_nil hne
    have hc := h c (List.mem_cons_self ..)
    refine ⟨c, cs, rfl, hc.indicator, hc.gap, ?_, fun _ => ⟨hc.question, hc.colon⟩⟩
    rintro (rfl | rfl | rfl)
    · cases cs with
      | nil => exact absurd rfl hdash
      | cons d ds => exact (h d (by simp)).gap
    · exact absurd rfl hc.question
    · exact absurd rfl hc.colon
  last hlast := absurd (h ' ' (List.mem_of_getLast? hlast)).gap (by decide)

/-! ## Words -/

theorem isPlainScalar_word {text : List Char} (h : ∀ c ∈ text, c.isAlphanum = true)
    (hne : text ≠ []) (inFlow : Bool) : IsPlainScalar inFlow text := by
  refine isPlainScalar_of_safe (fun c hc => isSafe_of_isWord (.inl ?_)) hne ?_ inFlow
  · simp [isWord, h c hc]
  · rintro rfl
    exact absurd (h '-' (by simp)) (by decide)

theorem atMarker_word {text : List Char} (h : ∀ c ∈ text, c.isAlphanum = true) :
    atMarker text = false := by
  rw [Bool.eq_false_iff, Ne, atMarker_iff]
  rintro ⟨tail, rfl | rfl, -⟩
  · exact absurd (h '-' (by simp)) (by decide)
  · exact absurd (h '.' (by simp)) (by decide)

/-! ## Integers -/

theorem isSafe_of_isDigit {c : Char} (h : Decimal.isDigit c = true) : IsSafe c := by
  refine isSafe_of_isWord (.inl ?_)
  have hdigit : c.isDigit = true := by
    simp only [Decimal.isDigit, Bool.and_eq_true, decide_eq_true_eq, Char.le_def] at h
    simp only [Char.isDigit, ge_iff_le, Bool.and_eq_true, decide_eq_true_eq]
    exact h
  simp [isWord, Char.isAlphanum, hdigit]

theorem isSafe_signed {i : Int} {c : Char} (h : c ∈ Decimal.signed i) : IsSafe c :=
  Decimal.forall_mem_signed (fun _ => isSafe_of_isDigit) (isSafe_of_isWord (.inl (by decide))) i c h

theorem isPlainScalar_signed (i : Int) (inFlow : Bool) :
    IsPlainScalar inFlow (Decimal.signed i) := by
  have hdigits := Decimal.digits_ne_nil i.natAbs
  have hmem : ∀ c ∈ Decimal.digits i.natAbs, Decimal.isDigit c = true :=
    fun c => Decimal.isDigit_of_mem_digits
  refine isPlainScalar_of_safe (fun c => isSafe_signed) ?_ ?_ inFlow
  · rw [Decimal.signed]
    split
    · simp
    · exact hdigits
  · rw [Decimal.signed]
    split
    · simpa using hdigits
    · intro heq
      rw [heq] at hmem
      exact absurd (hmem '-' (by simp)) (by decide)

end WorkItems.Yaml
