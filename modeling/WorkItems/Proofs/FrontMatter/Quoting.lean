import WorkItems.Proofs.FrontMatter.Characters
import WorkItems.Proofs.FrontMatter.SelfReading
import WorkItems.Proofs.Yaml.Flow
import WorkItems.Proofs.Yaml.PrintedStrings
/-!
# Texts as they are written

A text of a front matter is written as it is or between double quotes. Either way it is read as the
text, as a key and as a value, inside and outside of flow collections.
-/

namespace WorkItems.FrontMatter

open Yaml Yaml.Lexer

/-! ## Escapes -/

theorem hexDigit?_hexChar {d : Nat} (h : d < 16) : hexDigit? (hexChar d) = some d := by
  have hall : ∀ d < 16, hexDigit? (hexChar d) = some d := by decide
  exact hall d h

/-- What is written for a character stands for it, unless it is a separator. -/
theorem escapes_escapeChar {c : Char} (h : isBreak c = true → Text.isControl c = true) :
    Escapes (escapeChar c) c := by
  rw [escapeChar]
  split
  · rename_i hc
    subst hc
    exact escapes_letter (by decide) (by decide)
  split
  · rename_i hc
    subst hc
    exact escapes_letter (by decide) (by decide)
  split
  · rename_i hc
    subst hc
    exact escapes_letter (by decide) (by decide)
  split
  · rename_i hc
    subst hc
    exact escapes_letter (by decide) (by decide)
  split
  · rename_i hc
    subst hc
    exact escapes_letter (by decide) (by decide)
  split
  · rename_i hcontrol
    refine escapes_number (n := 2) rfl rfl (by decide) ?_
    simp only [Text.isControl, Bool.or_eq_true, Bool.and_eq_true, decide_eq_true_eq] at hcontrol
    have hhigh := hexDigit?_hexChar (d := c.toNat / 16) (by omega)
    have hlow := hexDigit?_hexChar (d := c.toNat % 16) (by omega)
    have hn : c.toNat / 16 * 16 + c.toNat % 16 = c.toNat := by omega
    simp [hexValue?, hhigh, hlow, hn, charAt?_toNat]
  · rename_i hslash hquote _ _ _ hcontrol
    have hbreak : isBreak c = false := by
      cases hb : isBreak c with
      | false => rfl
      | true => exact absurd (h hb) hcontrol
    exact escapes_self hbreak hquote hslash

theorem isControl_of_isBreak {c : Char} (hsep : c ≠ '\u2028' ∧ c ≠ '\u2029')
    (h : isBreak c = true) : Text.isControl c = true := by
  simp only [isBreak, Bool.or_eq_true, beq_iff_eq] at h
  rcases h with (((rfl | rfl) | rfl) | rfl) | rfl
  · decide
  · decide
  · decide
  · exact absurd rfl hsep.1
  · exact absurd rfl hsep.2

theorem escapes_of_noSeparator {cs : List Char} (h : NoSeparator cs) :
    ∀ c ∈ cs, Escapes (escapeChar c) c :=
  fun c hc => escapes_escapeChar (isControl_of_isBreak (h c hc))

theorem Unquoted.noBreak {cs : List Char} (h : Unquoted cs) (hsep : NoSeparator cs)
    (hnext : '\u0085' ∉ cs) : ∀ c ∈ cs, isBreak c = false := by
  intro c hc
  have hfeed : c ≠ '\n' := fun he => h.tame c hc (he ▸ by decide)
  have hreturn : c ≠ '\r' := fun he => h.tame c hc (he ▸ by decide)
  have hnel : c ≠ '\u0085' := fun he => hnext (he ▸ hc)
  simp [isBreak, hfeed, hreturn, hnel, hsep c hc]

/-! ## Written texts -/

/-- How a text is written, with the style in which it is read. -/
inductive Written (cs : List Char) : Style → List Char → Prop where
  | plain : IsPlainScalar true cs → Written cs .plain cs
  | quoted : NoSeparator cs → Written cs .doubleQuoted (doubleQuotes escapeChar cs)

namespace Written

variable {cs text : List Char} {style : Style}

theorem startsToken (h : Written cs style text)
    (hmark : style = .plain → cs.head? ≠ some '\ufeff') : StartsToken text := by
  cases h with
  | plain hscalar => exact hscalar.starts.startsToken (hmark rfl)
  | quoted _ => exact ⟨'"', _, rfl, by decide, by decide, by decide⟩

theorem flowScalar (h : Written cs style text) :
    FlowScalar text (.scalar (String.ofList cs) style) := by
  cases h with
  | plain hscalar => exact hscalar.flowScalar
  | quoted hsep => exact flowScalar_doubleQuoted (escapes_of_noSeparator hsep)

theorem endsLine (h : Written cs style text) (parent : Nat) :
    EndsLine parent (text ++ ['\n']) [.scalar (String.ofList cs) style] := by
  cases h with
  | plain hscalar => exact hscalar.outsideFlow.endsLine parent
  | quoted hsep => exact endsLine_doubleQuoted parent (escapes_of_noSeparator hsep)

theorem isKey (h : Written cs style text) (hmarker : style = .plain → atMarker cs = false) :
    IsKey text [.scalar (String.ofList cs) style] := by
  cases h with
  | plain hscalar => exact hscalar.outsideFlow.isKey (hmarker rfl)
  | quoted hsep => exact isKey_doubleQuoted (escapes_of_noSeparator hsep)

end Written

theorem toList_doubleQuoted (s : String) :
    (doubleQuoted s).toList = doubleQuotes escapeChar s.toList := String.toList_ofList

/-- A text inside of a configurable field is read as a string, also where a line starts. -/
theorem written_fieldText {s : String} (hsep : NoSeparator s.toList) :
    ∃ style, Written s.toList style (fieldText s).toList ∧ ReadsAsString style s.toList ∧
      (style = .plain → atMarker s.toList = false ∧ s.toList.head? ≠ some '\ufeff') := by
  by_cases hquotes : (needsQuotes s || !readsAsItself s) = true
  · refine ⟨.doubleQuoted, ?_, .inl (by decide), fun h => absurd h (by decide)⟩
    rw [fieldText, if_pos hquotes, toList_doubleQuoted]
    exact .quoted hsep
  · simp only [Bool.or_eq_true, Bool.not_eq_true', not_or, Bool.not_eq_false] at hquotes
    have hunquoted := unquoted_iff.2 (Bool.not_eq_true _ ▸ hquotes.1)
    have hreads := readsBack_of_readsAsItself hunquoted hquotes.2
    refine ⟨.plain, ?_, .inr hreads.resolves, fun _ => ⟨hreads.marker, hreads.noMark⟩⟩
    rw [fieldText, if_neg (by simp [hquotes])]
    exact .plain (hunquoted.isPlainScalar (hunquoted.noBreak hsep hreads.noNextLine))

/-- The style in which a text that is one of the five fields is read. -/
def coreStyle (s : String) : Style :=
  if needsQuotes s || isNullText s.toList then .doubleQuoted else .plain

/-- A text that is one of the five fields is read as a text, unless it has a bare next-line. -/
theorem written_coreText {s : String} (hsep : NoSeparator s.toList)
    (hnext : needsQuotes s = false → '\u0085' ∉ s.toList) :
    Written s.toList (coreStyle s) (coreText s).toList := by
  by_cases hquotes : (needsQuotes s || isNullText s.toList) = true
  · rw [coreStyle, coreText, if_pos hquotes, if_pos hquotes, toList_doubleQuoted]
    exact .quoted hsep
  · rw [coreStyle, coreText, if_neg hquotes, if_neg hquotes]
    simp only [Bool.or_eq_true, not_or, Bool.not_eq_true] at hquotes
    have hunquoted := unquoted_iff.2 hquotes.1
    exact .plain (hunquoted.isPlainScalar (hunquoted.noBreak hsep (hnext hquotes.1)))

end WorkItems.FrontMatter
