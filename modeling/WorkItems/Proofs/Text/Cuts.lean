import WorkItems.Proofs.Text.Pieces
/-!
# Where a text is cut at a separator

A cut at the first separator, at the first pair of separators or at the last separator is told by
the text alone: which parts there are, and which of them hold no separator.
-/

namespace WorkItems.Text

variable {sep : Char} {cs before after : List Char}

/-- The part before the first separator holds none, and that says which one it is. -/
theorem cutAt?_eq_some_iff :
    cutAt? sep cs = some (before, after) ↔ cs = before ++ sep :: after ∧ sep ∉ before := by
  induction cs generalizing before with
  | nil => simp [cutAt?]
  | cons c cs ih =>
      by_cases hc : c = sep
      · rw [cutAt?, hc, List.dropWhile_cons_of_neg (by simp), List.takeWhile_cons_of_neg (by simp)]
        constructor
        · rintro ⟨⟩
          exact ⟨rfl, List.not_mem_nil⟩
        · rintro ⟨heq, hmem⟩
          cases before with
          | nil => rw [(List.cons.inj heq).2]
          | cons b before =>
              obtain ⟨rfl, -⟩ := List.cons.inj heq
              exact absurd (List.mem_cons_self ..) hmem
      · have hcut : cutAt? sep (c :: cs) = (cutAt? sep cs).map fun p => (c :: p.1, p.2) := by
          rw [cutAt?, cutAt?, List.dropWhile_cons_of_pos (by simpa using hc),
            List.takeWhile_cons_of_pos (by simpa using hc)]
          cases cs.dropWhile (· != sep) <;> rfl
        rw [hcut, Option.map_eq_some_iff]
        constructor
        · rintro ⟨⟨b, a⟩, h, ⟨⟩⟩
          obtain ⟨rfl, hmem⟩ := ih.1 h
          exact ⟨rfl, List.not_mem_cons_of_ne_of_not_mem (Ne.symm hc) hmem⟩
        · rintro ⟨heq, hmem⟩
          cases before with
          | nil => exact absurd (List.cons.inj heq).1 hc
          | cons b before =>
              obtain ⟨rfl, htail⟩ := List.cons.inj heq
              exact ⟨(before, after), ih.2 ⟨htail, List.not_mem_of_not_mem_cons hmem⟩, rfl⟩

theorem cutAt?_eq_none_iff : cutAt? sep cs = none ↔ sep ∉ cs := by
  rw [Option.eq_none_iff_forall_ne_some]
  constructor
  · intro h hmem
    obtain ⟨b, a, rfl, hb⟩ := List.eq_append_cons_of_mem hmem
    exact h _ (cutAt?_eq_some_iff.2 ⟨rfl, hb⟩)
  · rintro h ⟨b, a⟩ hcut
    obtain ⟨rfl, -⟩ := cutAt?_eq_some_iff.1 hcut
    exact h (List.mem_append_right _ (List.mem_cons_self ..))

/-- A text has one first separator. -/
theorem append_cons_inj {a b x y : List Char} (ha : sep ∉ a) (hb : sep ∉ b)
    (h : a ++ sep :: x = b ++ sep :: y) : a = b ∧ x = y := by
  have hfirst : cutAt? sep (a ++ sep :: x) = some (a, x) := cutAt?_eq_some_iff.2 ⟨rfl, ha⟩
  have hsecond : cutAt? sep (a ++ sep :: x) = some (b, y) := cutAt?_eq_some_iff.2 ⟨h, hb⟩
  exact Prod.mk.inj (Option.some.inj (hfirst.symm.trans hsecond))

/-- No piece holds a separator. -/
theorem not_mem_of_mem_pieces {p : List Char} (h : p ∈ pieces sep cs) : sep ∉ p := by
  induction cs generalizing p with
  | nil =>
      rw [pieces, List.mem_singleton] at h
      rw [h]
      exact List.not_mem_nil
  | cons c cs ih =>
      rw [pieces] at h
      split at h
      · rcases List.mem_cons.1 h with rfl | h
        · exact List.not_mem_nil
        · exact ih h
      · rename_i hc
        cases hpieces : pieces sep cs with
        | nil => exact absurd hpieces (pieces_ne_nil sep cs)
        | cons q qs =>
            rw [hpieces] at h ih
            rcases List.mem_cons.1 h with rfl | h
            · exact List.not_mem_cons_of_ne_of_not_mem (Ne.symm hc) (ih (List.mem_cons_self ..))
            · exact ih (List.mem_cons_of_mem _ h)

/-- A single piece is the whole text. -/
theorem eq_of_pieces_eq_singleton {p : List Char} (h : pieces sep cs = [p]) : cs = p := by
  have hmem : sep ∉ cs := by
    intro hmem
    obtain ⟨first, rest, rfl, -⟩ := List.eq_append_cons_of_mem hmem
    rw [pieces_append] at h
    obtain ⟨q, qs, hfirst⟩ := List.exists_cons_of_ne_nil (pieces_ne_nil sep first)
    rw [hfirst] at h
    exact absurd (List.cons.inj h).2 (List.append_ne_nil_of_right_ne_nil _ (pieces_ne_nil sep rest))
  rw [pieces_of_not_mem hmem] at h
  exact (List.cons.inj h).1

/-- The first of several pieces ends at the first separator. -/
theorem exists_of_pieces_eq_cons_cons {p q : List Char} {ps : List (List Char)}
    (h : pieces sep cs = p :: q :: ps) :
    ∃ rest, cs = p ++ sep :: rest ∧ pieces sep rest = q :: ps := by
  by_cases hmem : sep ∈ cs
  · obtain ⟨first, rest, rfl, hfirst⟩ := List.eq_append_cons_of_mem hmem
    rw [pieces_append, pieces_of_not_mem hfirst] at h
    obtain ⟨rfl, hrest⟩ := List.cons.inj h
    exact ⟨rest, rfl, hrest⟩
  · rw [pieces_of_not_mem hmem] at h
    cases (List.cons.inj h).2

/--
The pieces of a text are those that it is put together from, with a separator in front of each but
the first.
-/
theorem pieces_eq_cons_iff {p : List Char} {ps : List (List Char)} :
    pieces sep cs = p :: ps ↔
      cs = p ++ ps.flatMap (sep :: ·) ∧ sep ∉ p ∧ ∀ q ∈ ps, sep ∉ q := by
  constructor
  · intro h
    have hnone : ∀ q ∈ p :: ps, sep ∉ q := fun q hq => not_mem_of_mem_pieces (h ▸ hq)
    obtain ⟨hp, hps⟩ := List.forall_mem_cons.1 hnone
    refine ⟨?_, hp, hps⟩
    clear hnone hp hps
    induction ps generalizing cs p with
    | nil => rw [eq_of_pieces_eq_singleton h, List.flatMap_nil, List.append_nil]
    | cons q ps ih =>
        obtain ⟨rest, rfl, hrest⟩ := exists_of_pieces_eq_cons_cons h
        rw [List.flatMap_cons, List.cons_append, ← ih hrest]
  · rintro ⟨rfl, hp, hps⟩
    induction ps generalizing p with
    | nil => rw [List.flatMap_nil, List.append_nil, pieces_of_not_mem hp]
    | cons q ps ih =>
        obtain ⟨hq, hps⟩ := List.forall_mem_cons.1 hps
        rw [List.flatMap_cons, List.cons_append, pieces_append, pieces_of_not_mem hp, ih hq hps]
        rfl

/-- A pair of separators lies between the two parts. -/
theorem eq_of_cutAtPair? {a b : Char} (h : cutAtPair? a b cs = some (before, after)) :
    cs = before ++ a :: b :: after := by
  induction cs using cutAtPair?.induct a b generalizing before with
  | case1 c d rest hpair =>
      rw [cutAtPair?, if_pos hpair] at h
      cases h
      rw [hpair.1, hpair.2]
      rfl
  | case2 c d rest hpair ih =>
      rw [cutAtPair?, if_neg hpair] at h
      obtain ⟨⟨front, behind⟩, hcut, ⟨⟩⟩ := Option.map_eq_some_iff.1 h
      exact congrArg (c :: ·) (ih hcut)
  | case3 cs hshort =>
      rw [cutAtPair?] at h
      · cases h
      · exact hshort

/-- What comes before the part behind the last separator ends with that separator. -/
theorem exists_front_behindLast (sep : Char) (cs : List Char) : ∃ front,
    cs = front ++ behindLast sep cs ∧ (front = [] ∨ front.getLast? = some sep) ∧
      sep ∉ behindLast sep cs := by
  refine ⟨(cs.reverse.dropWhile (· != sep)).reverse, ?_, ?_, ?_⟩
  · rw [behindLast, ← List.reverse_append, List.takeWhile_append_dropWhile, List.reverse_reverse]
  · rw [List.getLast?_reverse, List.reverse_eq_nil_iff]
    cases h : cs.reverse.dropWhile (· != sep) with
    | nil => exact .inl rfl
    | cons c rest =>
        have hc := List.head?_dropWhile_not (· != sep) cs.reverse
        rw [h] at hc
        exact .inr (congrArg some (by simpa using hc))
  · rw [behindLast, List.mem_reverse]
    intro hmem
    exact absurd (List.all_eq_true.1 List.all_takeWhile sep hmem) (by simp)

/-- A part without separators, with nothing or a separator before it, is the one behind the last. -/
theorem behindLast_append {front part : List Char} (hfront : front = [] ∨ front.getLast? = some sep)
    (hpart : sep ∉ part) : behindLast sep (front ++ part) = part := by
  have hall : ∀ c ∈ part.reverse, (c != sep) = true := by
    intro c hc
    rw [bne_iff_ne]
    rintro rfl
    exact hpart (List.mem_reverse.1 hc)
  rw [behindLast, List.reverse_append, List.takeWhile_append_of_pos hall]
  have hnone : front.reverse.takeWhile (· != sep) = [] := by
    rcases hfront with rfl | hlast
    · rfl
    · obtain ⟨first, rfl⟩ := List.getLast?_eq_some_iff.1 hlast
      rw [List.reverse_append]
      exact List.takeWhile_cons_of_neg (by simp)
  rw [hnone, List.append_nil, List.reverse_reverse]

end WorkItems.Text
