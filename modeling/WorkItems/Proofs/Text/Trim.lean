import WorkItems.Text.Blank
/-!
# Texts without blanks at their ends
-/

namespace WorkItems.Text

/-- A text that starts and ends with something else than a blank. -/
structure Trimmed (cs : List Char) : Prop where
  head : ∀ c, cs.head? = some c → isBlank c = false
  last : ∀ c, cs.getLast? = some c → isBlank c = false

theorem dropWhile_eq_self {α : Type} {p : α → Bool} {xs : List α}
    (h : ∀ x, xs.head? = some x → p x = false) : xs.dropWhile p = xs := by
  cases xs with
  | nil => rfl
  | cons x xs => simp [h x rfl]

theorem head?_dropWhile {α : Type} {p : α → Bool} {xs : List α} {x : α}
    (h : (xs.dropWhile p).head? = some x) : p x = false := by
  induction xs with
  | nil => simp at h
  | cons y ys ih =>
      rw [List.dropWhile_cons] at h
      split at h
      · exact ih h
      · rename_i hp
        simp only [List.head?_cons, Option.some.injEq] at h
        simpa [h] using hp

theorem trimEnd_isPrefix (cs : List Char) : trimEnd cs <+: cs := by
  rw [trimEnd, ← List.reverse_suffix, List.reverse_reverse]
  exact List.dropWhile_suffix _

theorem head?_of_isPrefix {α : Type} {xs ys : List α} {x : α} (h : xs <+: ys)
    (hx : xs.head? = some x) : ys.head? = some x := by
  obtain ⟨zs, rfl⟩ := h
  rw [List.head?_append, hx]
  rfl

theorem trim_eq_self {cs : List Char} (h : Trimmed cs) : trim cs = cs := by
  rw [trim, dropWhile_eq_self h.head, trimEnd, dropWhile_eq_self, List.reverse_reverse]
  intro c hc
  exact h.last c (by rwa [List.getLast?_eq_head?_reverse])

theorem trimmed_trim (cs : List Char) : Trimmed (trim cs) where
  head c hc := head?_dropWhile (head?_of_isPrefix (trimEnd_isPrefix _) hc)
  last c hc := by
    rw [trim, trimEnd, List.getLast?_reverse] at hc
    exact head?_dropWhile hc

theorem trimmed_iff {cs : List Char} : Trimmed cs ↔ trim cs = cs :=
  ⟨trim_eq_self, fun h => h ▸ trimmed_trim cs⟩

theorem trimEnd_append {cs back : List Char} (hback : ∀ c ∈ back, isBlank c = true) :
    trimEnd (cs ++ back) = trimEnd cs := by
  rw [trimEnd, List.reverse_append,
    List.dropWhile_append_of_pos fun c hc => hback c (List.mem_reverse.1 hc), trimEnd]

/-- Blanks around a text do not outlast trimming. -/
theorem trim_append {front cs back : List Char} (hfront : ∀ c ∈ front, isBlank c = true)
    (hback : ∀ c ∈ back, isBlank c = true) : trim (front ++ cs ++ back) = trim cs := by
  rw [trim, List.append_assoc, List.dropWhile_append_of_pos hfront, List.dropWhile_append, trim]
  split
  · rename_i hempty
    have hnone : back.dropWhile isBlank = [] := by
      rw [← List.append_nil back, List.dropWhile_append_of_pos hback, List.dropWhile_nil]
    rw [hnone, List.isEmpty_iff.1 hempty]
  · exact trimEnd_append hback

/-! ## Trimmed strings -/

theorem trimmed_strip (s : String) : Trimmed (strip s).toList := by
  rw [strip, String.toList_ofList]
  exact trimmed_trim _

theorem strip_eq_self {s : String} (h : Trimmed s.toList) : strip s = s := by
  rw [strip, trim_eq_self h, String.ofList_toList]

theorem all_dropWhile {α : Type} (p : α → Bool) (xs : List α) :
    (xs.dropWhile p).all p = xs.all p := by
  induction xs with
  | nil => rfl
  | cons x xs ih =>
      rw [List.dropWhile_cons]
      split
      · rename_i hx
        rw [ih, List.all_cons, hx, Bool.true_and]
      · rfl

/-- Trimming leaves a blank text blank, and makes no other one so. -/
theorem isBlankText_strip (s : String) : isBlankText (strip s) = isBlankText s := by
  rw [isBlankText, isBlankText, strip, String.toList_ofList, trim, trimEnd, List.all_reverse,
    all_dropWhile, List.all_reverse, all_dropWhile]

end WorkItems.Text
