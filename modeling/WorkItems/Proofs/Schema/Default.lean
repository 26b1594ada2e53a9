import WorkItems.Proofs.Decimal.Layout
import WorkItems.Proofs.Repair.Values
/-!
# Defaults fill their fields

A default that is resolved is filled in: the text of a scalar is blank only if the scalar is a blank
text, and what the types of fields make of it keeps that. Whether there is a default at all does not
depend on the day.
-/

namespace WorkItems

/-! ## Texts of scalars -/

namespace Number

/-- A text of characters that are no blanks is not blank unless it is empty. -/
theorem isBlankText_of_forall {s : String} (hne : s.toList ≠ [])
    (h : ∀ c ∈ s.toList, Text.isBlank c = false) : Text.isBlankText s = false := by
  rw [Text.isBlankText, List.all_eq_false]
  cases hs : s.toList with
  | nil => exact absurd hs hne
  | cons c cs =>
      refine ⟨c, List.mem_cons_self .., ?_⟩
      rw [h c (hs ▸ List.mem_cons_self ..)]
      exact Bool.false_ne_true

theorem writes_plainLayout : plainLayout.Writes (Text.isBlank · = false) where
  digit _ h := Numbering.isBlank_of_isDigit h
  minus := by decide
  point := by decide
  letter := by decide
  wholeEnd _ hc := nomatch hc
  exponentSign _ hc := nomatch hc
  nan := by decide
  infinity := by decide

theorem isBlankText_display (n : Number) : Text.isBlankText n.display = false := by
  have hdigit : ∀ c, Decimal.isDigit c = true → Text.isBlank c = false :=
    fun _ h => Numbering.isBlank_of_isDigit h
  cases n with
  | int i =>
      refine isBlankText_of_forall ?_ ?_
      · rw [display, Decimal.intText, String.toList_ofList, Decimal.signed]
        split
        · exact List.cons_ne_nil _ _
        · exact Decimal.digits_ne_nil _
      · rw [display, Decimal.intText, String.toList_ofList]
        exact Decimal.forall_mem_signed hdigit (by decide) _
  | uint u =>
      refine isBlankText_of_forall ?_ ?_
      · rw [display, Decimal.natText, String.toList_ofList]
        exact Decimal.digits_ne_nil _
      · rw [display, Decimal.natText, String.toList_ofList]
        exact fun c hc => hdigit c (Decimal.isDigit_of_mem_digits hc)
  | float x =>
      have hnan : plainLayout.nan.toList ≠ [] := by decide
      have hinfinity : plainLayout.infinity.toList ≠ [] := by decide
      exact isBlankText_of_forall (Decimal.text_ne_nil hnan hinfinity x)
        (writes_plainLayout.forall_mem_text x)

end Number

namespace Value

theorem isBlankText_display {v : Value} (hscalar : v.isScalar = true) (h : v.isVacant = false) :
    Text.isBlankText v.display = false := by
  cases v with
  | null => cases h
  | bool b => cases b <;> decide
  | number n => exact n.isBlankText_display
  | string s => exact h
  | sequence items => cases hscalar
  | mapping entries => cases hscalar

end Value

/-! ## Defaults -/

namespace Field

variable {f : Field} {today : Date}

theorem scalarText_spec {v : Value} {text : String} (h : scalarText v = .ok text)
    (hv : v.isVacant = false) : Text.isBlankText text = false := by
  rw [scalarText] at h
  split at h
  · obtain rfl := Except.ok.inj h
    exact Value.isBlankText_display ‹_› hv
  · cases h

theorem isVacant_dateDefault {text : String} {v : Value} (hf : f.ShowsDates)
    (hdate : f.fieldType = .date) (h : f.dateDefault today text = .ok v)
    (htext : Text.isBlankText text = false) : v.isVacant = false := by
  rw [dateDefault] at h
  split at h
  · obtain rfl := Except.ok.inj h
    exact hf hdate today
  · split at h
    · obtain rfl := Except.ok.inj h
      exact htext
    · cases h

theorem isVacant_numberDefault {v w : Value} (h : numberDefault v = .ok w) :
    w.isVacant = false := by
  rw [numberDefault.eq_def] at h
  split at h
  · obtain rfl := Except.ok.inj h
    rfl
  · split at h
    · obtain rfl := Except.ok.inj h
      rfl
    · cases h
  · cases h

theorem isVacant_arrayDefault {v w : Value} (h : arrayDefault v = .ok w) (hv : v.isVacant = false) :
    w.isVacant = false := by
  rw [arrayDefault.eq_def] at h
  split at h
  · obtain rfl := Except.ok.inj h
    exact hv
  · cases h
  · obtain rfl := Except.ok.inj h
    rfl

theorem isVacant_allowedDefault {text : String} {v : Value} (h : f.allowedDefault text = .ok v)
    (htext : Text.isBlankText text = false) : v.isVacant = false := by
  rw [allowedDefault] at h
  split at h
  · rename_i value hvalue
    obtain rfl := Except.ok.inj h
    exact (isBlankText_allowed? hvalue).trans htext
  · cases h

/-- A value of the type of the field is filled in if the configured one is. -/
theorem isVacant_coerceDefault {v w : Value} (hf : f.ShowsDates)
    (h : f.coerceDefault today v = .ok w) (hv : v.isVacant = false) : w.isVacant = false := by
  have hscalar : ∀ {g : String → Except DefaultFault Value},
      (do g (← scalarText v)) = .ok w →
        ∃ text, Text.isBlankText text = false ∧ g text = .ok w := by
    intro g hg
    cases htext : scalarText v with
    | error e =>
        rw [htext] at hg
        cases hg
    | ok text =>
        rw [htext] at hg
        exact ⟨text, scalarText_spec htext hv, hg⟩
  rw [coerceDefault] at h
  cases htype : f.fieldType with
  | number =>
      simp only [htype] at h
      exact isVacant_numberDefault h
  | array =>
      simp only [htype] at h
      exact isVacant_arrayDefault h hv
  | date =>
      simp only [htype] at h
      obtain ⟨text, htext, h⟩ := hscalar h
      exact isVacant_dateDefault hf htype h htext
  | enumeration =>
      simp only [htype] at h
      obtain ⟨text, htext, h⟩ := hscalar h
      exact isVacant_allowedDefault h htext
  | string =>
      simp only [htype] at h
      obtain ⟨text, htext, h⟩ := hscalar h
      obtain rfl := Except.ok.inj h
      exact htext
  | email =>
      simp only [htype] at h
      obtain ⟨text, htext, h⟩ := hscalar h
      obtain rfl := Except.ok.inj h
      exact htext
  | url =>
      simp only [htype] at h
      obtain ⟨text, htext, h⟩ := hscalar h
      obtain rfl := Except.ok.inj h
      exact htext

/-- A default that is resolved is filled in. -/
theorem isVacant_of_resolveDefault {v : Value} (hf : f.ShowsDates)
    (h : f.resolveDefault today = .ok (some v)) : v.isVacant = false := by
  rw [resolveDefault] at h
  split at h
  · cases h
  · split at h
    · cases h
    · rename_i w _ hw
      cases hcoerce : f.coerceDefault today w with
      | error e =>
          rw [hcoerce] at h
          cases h
      | ok u =>
          rw [hcoerce] at h
          obtain rfl := Option.some.inj (Except.ok.inj h)
          exact isVacant_coerceDefault hf hcoerce (Bool.eq_false_iff.2 hw)

/-- A field without a default on one day has none on any other. -/
theorem resolveDefault_none (h : f.resolveDefault today = .ok none) (other : Date) :
    f.resolveDefault other = .ok none := by
  rw [resolveDefault] at h ⊢
  split at h
  · rfl
  · split at h
    · rename_i hv
      simp only [hv, if_true]
    · rename_i w _ _
      cases hcoerce : f.coerceDefault today w with
      | error e =>
          rw [hcoerce] at h
          cases h
      | ok u =>
          rw [hcoerce] at h
          cases Except.ok.inj h

end Field
end WorkItems
