import WorkItems.Proofs.Decimal.Digits
/-!
# The characters of a written number

A number is written with digits, a sign, a point, an exponent letter and what its layout adds.
-/

namespace WorkItems.Decimal

variable {P : Char → Prop}

/-- Whatever holds of the digits and of a minus sign holds of all characters of an integer. -/
theorem forall_mem_signed (hdigit : ∀ c, isDigit c = true → P c) (hminus : P '-') (i : Int) :
    ∀ c ∈ signed i, P c := by
  intro c hc
  rw [signed] at hc
  split at hc
  · rcases List.mem_cons.1 hc with rfl | hc
    · exact hminus
    · exact hdigit c (isDigit_of_mem_digits hc)
  · exact hdigit c (isDigit_of_mem_digits hc)

/-- The characters with which a layout writes all have a property. -/
structure Layout.Writes (layout : Layout) (P : Char → Prop) : Prop where
  digit : ∀ c, isDigit c = true → P c
  minus : P '-'
  point : P '.'
  letter : P 'e'
  wholeEnd : ∀ c ∈ layout.wholeEnd, P c
  exponentSign : ∀ c ∈ layout.exponentSign, P c
  nan : ∀ c ∈ layout.nan.toList, P c
  infinity : ∀ c ∈ layout.infinity.toList, P c

namespace Layout.Writes

variable {layout : Layout} (w : layout.Writes P)
include w

theorem zero : P '0' := w.digit '0' (by decide)

theorem forall_mem_positional {ds : List Char} (hds : ∀ c ∈ ds, P c) (point : Int) :
    ∀ c ∈ positional layout ds point, P c := by
  intro c hc
  rw [positional] at hc
  split at hc
  · simp only [List.cons_append, List.mem_cons, List.mem_append, List.mem_replicate] at hc
    rcases hc with rfl | rfl | ⟨-, rfl⟩ | hc
    · exact w.zero
    · exact w.point
    · exact w.zero
    · exact hds c hc
  · split at hc
    · rcases List.mem_append.1 hc with hc | hc
      · exact hds c (List.mem_of_mem_take hc)
      · rcases List.mem_cons.1 hc with rfl | hc
        · exact w.point
        · exact hds c (List.mem_of_mem_drop hc)
    · simp only [List.mem_append, List.mem_replicate] at hc
      rcases hc with (hc | ⟨-, rfl⟩) | hc
      · exact hds c hc
      · exact w.zero
      · exact w.wholeEnd c hc

theorem forall_mem_scientific {ds : List Char} (hds : ∀ c ∈ ds, P c) (point : Int) :
    ∀ c ∈ scientific layout ds point, P c := by
  intro c hc
  simp only [scientific, List.mem_append, List.mem_cons] at hc
  rcases hc with ((hc | hc) | rfl | hc) | hc
  · exact hds c (List.mem_of_mem_take hc)
  · split at hc
    · exact absurd hc List.not_mem_nil
    · rcases List.mem_cons.1 hc with rfl | hc
      · exact w.point
      · exact hds c (List.mem_of_mem_drop hc)
  · exact w.letter
  · split at hc
    · exact absurd hc List.not_mem_nil
    · exact w.exponentSign c hc
  · exact forall_mem_signed w.digit w.minus _ c hc

theorem forall_mem_finite (word : Nat) : ∀ c ∈ layout.finite word, P c := by
  have hds : ∀ c ∈ digits (shortest layout.tie word).digits, P c :=
    fun c hc => w.digit c (isDigit_of_mem_digits hc)
  intro c hc
  simp only [Layout.finite] at hc
  split at hc
  · exact w.forall_mem_positional hds _ c hc
  · split at hc
    · exact w.forall_mem_positional hds _ c hc
    · exact w.forall_mem_scientific hds _ c hc

theorem forall_mem_text (x : Float) : ∀ c ∈ (layout.text x).toList, P c := by
  have hmagnitude : ∀ c ∈ (if isInfinite x then layout.infinity.toList
      else if word x = 0 then '0' :: layout.wholeEnd else layout.finite (word x)), P c := by
    intro c hc
    split at hc
    · exact w.infinity c hc
    · split at hc
      · rcases List.mem_cons.1 hc with rfl | hc
        · exact w.zero
        · exact w.wholeEnd c hc
      · exact w.forall_mem_finite _ c hc
  intro c hc
  rw [Layout.text] at hc
  split at hc
  · exact w.nan c hc
  · rw [String.toList_ofList] at hc
    split at hc
    · rcases List.mem_cons.1 hc with rfl | hc
      · exact w.minus
      · exact hmagnitude c hc
    · exact hmagnitude c hc

end Layout.Writes

/-! ## A written number is not empty -/

theorem positional_ne_nil (layout : Layout) {ds : List Char} (hds : ds ≠ []) (point : Int) :
    positional layout ds point ≠ [] := by
  rw [positional]
  split
  · exact List.cons_ne_nil _ _
  · split
    · exact List.append_ne_nil_of_right_ne_nil _ (List.cons_ne_nil _ _)
    · exact List.append_ne_nil_of_left_ne_nil (List.append_ne_nil_of_left_ne_nil hds _) _

theorem finite_ne_nil (layout : Layout) (word : Nat) : layout.finite word ≠ [] := by
  have hds := digits_ne_nil (shortest layout.tie word).digits
  have hscientific : ∀ point,
      scientific layout (digits (shortest layout.tie word).digits) point ≠ [] :=
    fun point => List.append_ne_nil_of_left_ne_nil
      (List.append_ne_nil_of_right_ne_nil _ (List.cons_ne_nil _ _)) _
  simp only [Layout.finite]
  split
  · exact positional_ne_nil layout hds _
  · split
    · exact positional_ne_nil layout hds _
    · exact hscientific _

theorem text_ne_nil {layout : Layout} (hnan : layout.nan.toList ≠ [])
    (hinfinity : layout.infinity.toList ≠ []) (x : Float) : (layout.text x).toList ≠ [] := by
  rw [Layout.text]
  split
  · exact hnan
  · rw [String.toList_ofList]
    split
    · exact List.cons_ne_nil _ _
    · split
      · exact hinfinity
      · split
        · exact List.cons_ne_nil _ _
        · exact finite_ne_nil layout _

end WorkItems.Decimal
