import WorkItems.Text.Pieces
/-!
# The pieces of a text between separators
-/

namespace WorkItems.Text

theorem pieces_ne_nil (sep : Char) (cs : List Char) : pieces sep cs ≠ [] := by
  cases cs with
  | nil => exact List.cons_ne_nil _ _
  | cons c cs =>
      rw [pieces]
      split
      · exact List.cons_ne_nil _ _
      · split <;> exact List.cons_ne_nil _ _

theorem pieces_cons_self (sep : Char) (cs : List Char) :
    pieces sep (sep :: cs) = [] :: pieces sep cs := if_pos rfl

/-- Cutting at a separator cuts both sides of it. -/
theorem pieces_append (sep : Char) (cs ds : List Char) :
    pieces sep (cs ++ sep :: ds) = pieces sep cs ++ pieces sep ds := by
  induction cs with
  | nil => simp [pieces]
  | cons c cs ih =>
      rw [List.cons_append, pieces, pieces]
      split
      · rw [ih]
        rfl
      · rw [ih]
        cases h : pieces sep cs with
        | nil => exact absurd h (pieces_ne_nil sep cs)
        | cons p ps => rfl

theorem pieces_of_not_mem {sep : Char} {cs : List Char} (h : sep ∉ cs) : pieces sep cs = [cs] := by
  induction cs with
  | nil => rfl
  | cons c cs ih =>
      rw [List.mem_cons, not_or] at h
      rw [pieces, if_neg (Ne.symm h.1), ih h.2]

/-- Where characters are replaced but for the separator, the pieces stay apart. -/
theorem pieces_map {sep : Char} {f : Char → Char} (hf : ∀ c, f c = sep ↔ c = sep) (cs : List Char) :
    pieces sep (cs.map f) = (pieces sep cs).map (List.map f) := by
  induction cs with
  | nil => rfl
  | cons c cs ih =>
      rw [List.map_cons, pieces, pieces, ih]
      by_cases hc : c = sep
      · rw [if_pos hc, if_pos ((hf c).2 hc)]
        rfl
      · rw [if_neg hc, if_neg (mt (hf c).1 hc)]
        cases h : pieces sep cs with
        | nil => exact absurd h (pieces_ne_nil sep cs)
        | cons p ps => rfl

/-- Every character of a text is a separator or in one of the pieces. -/
theorem mem_pieces_of_mem (sep : Char) {c : Char} {cs : List Char} (h : c ∈ cs) :
    c = sep ∨ ∃ p ∈ pieces sep cs, c ∈ p := by
  induction cs with
  | nil => cases h
  | cons d ds ih =>
      rw [pieces]
      rcases List.mem_cons.1 h with rfl | h
      · by_cases hsep : c = sep
        · exact .inl hsep
        · rw [if_neg hsep]
          cases hpieces : pieces sep ds with
          | nil => exact absurd hpieces (pieces_ne_nil sep ds)
          | cons p ps => exact .inr ⟨c :: p, List.mem_cons_self .., List.mem_cons_self ..⟩
      · refine (ih h).imp_right ?_
        rintro ⟨p, hp, hc⟩
        split
        · exact ⟨p, List.mem_cons_of_mem _ hp, hc⟩
        · cases hpieces : pieces sep ds with
          | nil => exact absurd hpieces (pieces_ne_nil sep ds)
          | cons q qs =>
              rw [hpieces] at hp
              rcases List.mem_cons.1 hp with rfl | hp
              · exact ⟨d :: p, List.mem_cons_self .., List.mem_cons_of_mem _ hc⟩
              · exact ⟨p, List.mem_cons_of_mem _ hp, hc⟩

end WorkItems.Text
