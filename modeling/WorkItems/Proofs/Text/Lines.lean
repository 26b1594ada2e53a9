import WorkItems.Text.Blank
/-!
# Lines of a text that is put together from lines
-/

namespace WorkItems

namespace Text

/-- The lines of a text that starts with one whole line. -/
theorem lines_append_line {body : List Char} (h : '\n' ∉ body) (rest : List Char) :
    lines (body ++ '\n' :: rest) = (body ++ ['\n']) :: lines rest := by
  induction body with
  | nil => simp [lines]
  | cons c body ih =>
      have hc : c ≠ '\n' := fun e => h (e ▸ List.mem_cons_self ..)
      have hbody : '\n' ∉ body := fun e => h (List.mem_cons_of_mem _ e)
      simp [lines, hc, ih hbody, consToHead]

/-- A line holds a line feed at its end at most. -/
theorem exists_body_of_mem_lines {cs line : List Char} (h : line ∈ lines cs) :
    ∃ body, '\n' ∉ body ∧ (line = body ∨ line = body ++ ['\n']) := by
  induction cs generalizing line with
  | nil => simp [lines] at h
  | cons c cs ih =>
      rw [lines] at h
      split at h
      · rename_i hc
        subst hc
        rcases List.mem_cons.1 h with rfl | h
        · exact ⟨[], by simp, .inr rfl⟩
        · exact ih h
      · rename_i hc
        cases hls : lines cs with
        | nil =>
            rw [hls] at h
            obtain rfl := List.mem_singleton.1 h
            exact ⟨[c], by simpa using Ne.symm hc, .inl rfl⟩
        | cons l ls =>
            rw [hls] at h ih
            rcases List.mem_cons.1 h with rfl | h
            · obtain ⟨body, hb, hl⟩ := ih (List.mem_cons_self ..)
              refine ⟨c :: body, by simp [hb, Ne.symm hc], hl.imp ?_ ?_⟩ <;> rintro rfl <;> rfl
            · exact ih (List.mem_cons_of_mem _ h)

theorem chomp_isPrefix (line : List Char) : chomp line <+: line := by
  rw [chomp, ← List.reverse_suffix, List.reverse_reverse]
  exact List.dropWhile_suffix _

theorem chomp_append_ends {ends : List Char} (h : ∀ c ∈ ends, isLineEnd c = true)
    (body : List Char) :
    chomp (body ++ ends) = chomp body := by
  rw [chomp, List.reverse_append,
    List.dropWhile_append_of_pos fun c hc => h c (List.mem_reverse.1 hc), chomp]

theorem chomp_append_lineFeed (body : List Char) : chomp (body ++ ['\n']) = chomp body :=
  chomp_append_ends (by decide) body

/-- What is taken from the end of a line. -/
theorem exists_chomp_append (line : List Char) :
    ∃ ends, (∀ c ∈ ends, isLineEnd c = true) ∧ line = chomp line ++ ends := by
  refine ⟨(line.reverse.takeWhile isLineEnd).reverse, fun c hc => ?_, ?_⟩
  · exact List.all_eq_true.1 List.all_takeWhile c (List.mem_reverse.1 hc)
  · rw [chomp, ← List.reverse_append, List.takeWhile_append_dropWhile, List.reverse_reverse]

theorem not_mem_chomp_of_mem_lines {cs line : List Char} (h : line ∈ lines cs) :
    '\n' ∉ chomp line := by
  obtain ⟨body, hb, rfl | rfl⟩ := exists_body_of_mem_lines h
  · exact fun hc => hb ((chomp_isPrefix _).subset hc)
  · rw [chomp_append_lineFeed]
    exact fun hc => hb ((chomp_isPrefix _).subset hc)

/-! ## Whole lines -/

/-- A line with the line feed at its end. -/
def IsWholeLine (line : List Char) : Prop := ∃ body, '\n' ∉ body ∧ line = body ++ ['\n']

theorem lines_of_not_mem {cs : List Char} (h : '\n' ∉ cs) (hne : cs ≠ []) : lines cs = [cs] := by
  induction cs with
  | nil => exact absurd rfl hne
  | cons c cs ih =>
      have hc : c ≠ '\n' := fun e => h (e ▸ List.mem_cons_self ..)
      have hcs : '\n' ∉ cs := fun e => h (List.mem_cons_of_mem _ e)
      rw [lines, if_neg hc]
      cases cs with
      | nil => rfl
      | cons d ds => rw [ih hcs (List.cons_ne_nil _ _), consToHead]

/-- Whole lines in front of a text are lines of it. -/
theorem lines_append_lines {ls : List (List Char)} (h : ∀ l ∈ ls, IsWholeLine l)
    (rest : List Char) :
    lines (ls.flatten ++ rest) = ls ++ lines rest := by
  induction ls with
  | nil => rfl
  | cons l ls ih =>
      obtain ⟨body, hbody, rfl⟩ := h l (List.mem_cons_self ..)
      rw [List.flatten_cons, List.append_assoc, List.append_assoc, List.singleton_append,
        lines_append_line hbody, ih fun m hm => h m (List.mem_cons_of_mem _ hm), List.cons_append]

/-- A text that is not empty starts with a whole line, or is one line without a line feed. -/
theorem lines_cases {cs : List Char} (hne : cs ≠ []) :
    (∃ line rest, IsWholeLine line ∧ lines cs = line :: lines rest) ∨
    ('\n' ∉ cs ∧ lines cs = [cs]) := by
  by_cases hmem : '\n' ∈ cs
  · obtain ⟨body, rest, rfl, hbody⟩ := List.eq_append_cons_of_mem hmem
    exact .inl ⟨_, rest, ⟨body, hbody, rfl⟩, lines_append_line hbody rest⟩
  · exact .inr ⟨hmem, lines_of_not_mem hmem hne⟩

/-- Lines in front of another one are whole, and one that is not is the last. -/
theorem isWholeLine_of_lines_eq {cs line : List Char} {before rest : List (List Char)}
    (h : lines cs = before ++ line :: rest) :
    (∀ l ∈ before, IsWholeLine l) ∧ (IsWholeLine line ∨ ('\n' ∉ line ∧ rest = [])) := by
  have hcons : ∀ {cs line : List Char} {rest : List (List Char)}, lines cs = line :: rest →
      (IsWholeLine line ∧ ∃ behind, rest = lines behind) ∨ ('\n' ∉ line ∧ rest = []) := by
    intro cs line rest h
    have hne : cs ≠ [] := by
      rintro rfl
      cases h
    rcases lines_cases hne with ⟨first, behind, hfirst, heq⟩ | ⟨hmem, heq⟩
    · obtain ⟨rfl, rfl⟩ := List.cons.inj (heq.symm.trans h)
      exact .inl ⟨hfirst, behind, rfl⟩
    · obtain ⟨rfl, rfl⟩ := List.cons.inj (heq.symm.trans h)
      exact .inr ⟨hmem, rfl⟩
  induction before generalizing cs with
  | nil => exact ⟨by simp, (hcons h).imp_left And.left⟩
  | cons first before ih =>
      rcases hcons h with ⟨hfirst, behind, hbehind⟩ | ⟨-, hnone⟩
      · obtain ⟨hbefore, hline⟩ := ih hbehind.symm
        exact ⟨List.forall_mem_cons.2 ⟨hfirst, hbefore⟩, hline⟩
      · exact absurd hnone (by simp)

end Text

end WorkItems
