import WorkItems.Proofs.Yaml.Literal
/-!
# Single quotes over several lines

A text with line breaks is printed between single quotes only if none of them is a line feed.
Folding keeps such breaks, and it drops the margin that is printed behind them. Spaces of the text
next to a break would be dropped too, which is why the printer does not use single quotes for them.
-/

namespace WorkItems.Yaml

theorem hasPair_cons {p q : Char → Bool} {c : Char} {cs : List Char}
    (h : hasPair p q (c :: cs) = false) :
    (p c = true → ∀ d, cs.head? = some d → q d = false) ∧ hasPair p q cs = false := by
  cases cs with
  | nil => exact ⟨fun _ _ hd => (Option.some_ne_none _ hd.symm).elim, rfl⟩
  | cons d cs =>
      rw [hasPair, Bool.or_eq_false_iff, Bool.and_eq_false_iff] at h
      refine ⟨fun hp e he => ?_, h.2⟩
      obtain rfl : d = e := Option.some.inj he
      exact h.1.resolve_left (by simp [hp])

/-- A text that single quotes keep. -/
structure IsQuotable (cs : List Char) : Prop where
  kept : ∀ c ∈ cs, isBreak c = true → readBreak c = c ∧ c ≠ '\n'
  noTab : '\t' ∉ cs
  noSpaceBehind : hasPair isBreak (· == ' ') cs = false
  noSpaceBefore : hasPair (· == ' ') isBreak cs = false

theorem IsQuotable.tail {c : Char} {cs : List Char} (h : IsQuotable (c :: cs)) : IsQuotable cs where
  kept d hd := h.kept d (List.mem_cons_of_mem _ hd)
  noTab hd := h.noTab (List.mem_cons_of_mem _ hd)
  noSpaceBehind := (hasPair_cons h.noSpaceBehind).2
  noSpaceBefore := (hasPair_cons h.noSpaceBefore).2

/--
What was read so far between single quotes, at the start of a line or inside of one, in front of the
text `cs`: spaces and line breaks do not meet.
-/
inductive QuotedSoFar : (atStart : Bool) → Folded → Position → (cs : List Char) → Prop where
  | lines {reversed more : List Char} {b : Char} {p : Position} {cs : List Char} :
      b ≠ '\n' → cs.head? ≠ some ' ' → QuotedSoFar true ⟨reversed, .breaks (some b) more⟩ p cs
  | char {reversed : List Char} {p : Position} {cs : List Char} :
      0 < p.column → QuotedSoFar false ⟨reversed, .none⟩ p cs
  | spaces {reversed last : List Char} {p : Position} {cs : List Char} : 0 < p.column →
      (∀ c, cs.head? = some c → isBreak c = false) → QuotedSoFar false ⟨reversed, .spaces last⟩ p cs

theorem close_breaks {reversed more : List Char} {b : Char} (h : b ≠ '\n') :
    Folded.close ⟨reversed, .breaks (some b) more⟩ = more ++ b :: reversed := by
  simp [Folded.close, h]

/-- Behind a line break margins do not count. -/
theorem singleQuoted_margin (reversed : List Char) (first : Option Char) (more rest : List Char)
    (n : Nat) : ∀ p : Position,
      singleQuoted ⟨reversed, .breaks first more⟩ p (List.replicate n ' ' ++ rest) =
        singleQuoted ⟨reversed, .breaks first more⟩ (p.advance n) rest := by
  induction n with
  | zero => exact fun _ => rfl
  | succ n ih =>
      intro p
      have hspace : isSpace ' ' = true := rfl
      rw [List.replicate_succ, List.cons_append,
        singleQuoted.eq_5 _ _ _ _ (by simp) (by simp) (by simp), hspace, if_pos rfl,
        Folded.addSpace, ih, Position.advance_advance, Nat.add_comm]

theorem singleQuoted_break {f : Folded} {p : Position} {c : Char} (h : isBreak c = true)
    (hkept : readBreak c = c) (cs : List Char) :
    singleQuoted f p (c :: cs) = singleQuoted (f.addBreak c) (p.newline 1) cs := by
  have hquote : c ≠ '\'' := by
    rintro rfl
    exact absurd h (by decide)
  have hspace : isSpace c = false := by
    cases hc : isSpace c with
    | false => rfl
    | true =>
        simp only [isSpace, Bool.or_eq_true, beq_iff_eq] at hc
        rcases hc with rfl | rfl <;> exact absurd h (by decide)
  rw [singleQuoted.eq_5]
  · simp [hspace, h, hkept]
  · exact fun _ hr => absurd hr (ne_return_of_readBreak hkept)
  · exact fun _ hr => absurd hr hquote
  · exact hquote

section Step

variable {indent : Nat} {c : Char} {cs : List Char}

theorem indented_doubledQuotes_cons (indent : Nat) (atStart : Bool) (c : Char) (cs : List Char) :
    indented indent atStart (doubledQuotes (c :: cs)) =
      indented indent atStart (doubledQuotes [c]) ++
        indented indent (isBreak c) (doubledQuotes cs) := by
  by_cases hquote : c = '\''
  · subst hquote
    have hbreak : isBreak '\'' = false := by decide
    simp [doubledQuotes, indented, hbreak]
  · cases hbreak : isBreak c <;> simp [doubledQuotes, hquote, indented, hbreak]

theorem indented_char (atStart : Bool) (h : isBreak c = false) :
    indented indent atStart (doubledQuotes [c]) =
      (if atStart then pad indent else []) ++ doubledQuotes [c] := by
  by_cases hquote : c = '\''
  · subst hquote
    have hbreak : isBreak '\'' = false := by decide
    simp [doubledQuotes, indented, hbreak]
  · simp [doubledQuotes, hquote, indented, h]

theorem indented_break (atStart : Bool) (h : isBreak c = true) :
    indented indent atStart (doubledQuotes [c]) = [c] := by
  have hquote : c ≠ '\'' := by
    rintro rfl
    exact absurd h (by decide)
  simp [doubledQuotes, hquote, indented, h]

variable {atStart : Bool} {f : Folded} {p : Position}

/-- A line break between single quotes. -/
theorem QuotedSoFar.step_break (h : QuotedSoFar atStart f p (c :: cs))
    (hquotable : IsQuotable (c :: cs)) (hbreak : isBreak c = true) (rest : List Char) :
    ∃ f' p', QuotedSoFar true f' p' cs ∧ f'.close = c :: f.close ∧ p.line ≤ p'.line ∧
      singleQuoted f p (c :: rest) = singleQuoted f' p' rest := by
  obtain ⟨hbehind, -⟩ := hasPair_cons hquotable.noSpaceBehind
  obtain ⟨hkept, hfeed⟩ := hquotable.kept c (List.mem_cons_self ..) hbreak
  have hnext : cs.head? ≠ some ' ' := fun hspace => absurd (hbehind hbreak ' ' hspace) (by decide)
  cases h with
  | lines hb _ =>
      exact ⟨_, p.newline 1, .lines hb hnext, by simp [close_breaks hb], Nat.le_succ _,
        singleQuoted_break hbreak hkept rest⟩
  | char _ =>
      exact ⟨_, p.newline 1, .lines hfeed hnext, close_breaks hfeed, Nat.le_succ _,
        singleQuoted_break hbreak hkept rest⟩
  | spaces _ hhead => exact absurd (hhead c rfl) (by simp [hbreak])

/-- Within a line a character is added to what was read. -/
theorem QuotedSoFar.add (hf : f.InLine) (hp : 0 < p.column) (hquotable : IsQuotable (c :: cs)) :
    QuotedSoFar false (f.add c) p cs := by
  obtain ⟨hbefore, -⟩ := hasPair_cons hquotable.noSpaceBefore
  rw [Folded.add]
  split
  · rename_i hspace
    have htab : c ≠ '\t' := fun hc => hquotable.noTab (hc ▸ List.mem_cons_self ..)
    obtain rfl : c = ' ' := by simpa [isSpace, htab] using hspace
    obtain ⟨reversed, gap⟩ := f
    rcases hf with rfl | ⟨last, rfl⟩ <;> exact .spaces hp (hbefore rfl)
  · exact .char hp

/-- A character between single quotes, with the margin in front of it. -/
theorem QuotedSoFar.step_char (hindent : 0 < indent) (h : QuotedSoFar atStart f p (c :: cs))
    (hquotable : IsQuotable (c :: cs)) (hbreak : isBreak c = false) (rest : List Char) :
    ∃ f' p', QuotedSoFar false f' p' cs ∧ f'.close = c :: f.close ∧ p.line ≤ p'.line ∧
      singleQuoted f p ((if atStart then pad indent else []) ++ (doubledQuotes [c] ++ rest)) =
        singleQuoted f' p' rest := by
  have hpos : ∀ {q : Position} n, 0 < q.column → 0 < (q.advance n).column :=
    fun n hq => Nat.lt_of_lt_of_le hq (Nat.le_add_right _ _)
  cases h with
  | @lines reversed more b _ _ hb hhead =>
      have hspace : isSpace c = false := by
        have htab : c ≠ '\t' := fun hc => hquotable.noTab (hc ▸ List.mem_cons_self ..)
        have hc : c ≠ ' ' := fun hc => hhead (by rw [hc]; rfl)
        simp [isSpace, hc, htab]
      have hcolumn : 0 < (p.advance indent).column :=
        Nat.lt_of_lt_of_le hindent (Nat.le_add_left _ _)
      have hread := singleQuoted_char (f := ⟨reversed, .breaks (some b) more⟩) hbreak hcolumn rest
      rw [Folded.add, hspace] at hread
      exact ⟨_, _, .char (hpos (doubledQuotes [c]).length hcolumn), rfl, Nat.le_refl _,
        (singleQuoted_margin _ _ _ _ indent p).trans hread⟩
  | char hp =>
      exact ⟨_, _, .add (.inl rfl) (hpos _ hp) hquotable, (Folded.InLine.add (.inl rfl) c).2,
        Nat.le_refl _, singleQuoted_char hbreak hp rest⟩
  | spaces hp _ =>
      exact ⟨_, _, .add (.inr ⟨_, rfl⟩) (hpos _ hp) hquotable,
        (Folded.InLine.add (.inr ⟨_, rfl⟩) c).2, Nat.le_refl _, singleQuoted_char hbreak hp rest⟩

/-- One character between single quotes is read as itself. -/
theorem QuotedSoFar.step (hindent : 0 < indent) (h : QuotedSoFar atStart f p (c :: cs))
    (hquotable : IsQuotable (c :: cs)) (rest : List Char) :
    ∃ f' p', QuotedSoFar (isBreak c) f' p' cs ∧ f'.close = c :: f.close ∧ p.line ≤ p'.line ∧
      singleQuoted f p (indented indent atStart (doubledQuotes [c]) ++ rest) =
        singleQuoted f' p' rest := by
  cases hbreak : isBreak c with
  | true =>
      rw [indented_break atStart hbreak]
      exact h.step_break hquotable hbreak rest
  | false =>
      rw [indented_char atStart hbreak, List.append_assoc]
      exact h.step_char hindent hquotable hbreak rest

end Step

/-- The margin that a quote behind a line break has. -/
def quoteMargin (indent : Nat) (atStart : Bool) : List Char := if atStart then pad indent else []

/-- A text over several lines is read as it was. -/
theorem singleQuoted_indented {indent : Nat} (hindent : 0 < indent) {tail : List Char}
    (htail : tail.head? ≠ some '\'') {text : List Char} (hquotable : IsQuotable text) :
    ∀ {atStart : Bool} {f : Folded} {p : Position}, QuotedSoFar atStart f p text →
      ∃ q, p.line ≤ q.line ∧
        singleQuoted f p (indented indent atStart (doubledQuotes text) ++
            (quoteMargin indent (startsBehind isBreak atStart text) ++ '\'' :: tail)) =
          .ok (String.ofList (f.close.reverse ++ text), ⟨q, tail⟩) := by
  induction text with
  | nil =>
      intro atStart f p h
      have hbehind : startsBehind isBreak atStart [] = atStart := rfl
      rw [hbehind, List.append_nil, ← Folded.closedText]
      cases h with
      | lines _ _ =>
          exact ⟨(p.advance indent).advance 1, Nat.le_refl _,
            (singleQuoted_margin _ _ _ _ indent p).trans (singleQuoted_quote htail ..)⟩
      | char _ => exact ⟨p.advance 1, Nat.le_refl _, singleQuoted_quote htail ..⟩
      | spaces _ _ => exact ⟨p.advance 1, Nat.le_refl _, singleQuoted_quote htail ..⟩
  | cons c cs ih =>
      intro atStart f p h
      obtain ⟨f', p', hnext, hclose, hline, hread⟩ := h.step hindent hquotable
        (indented indent (isBreak c) (doubledQuotes cs) ++
          (quoteMargin indent (startsBehind isBreak (isBreak c) cs) ++ '\'' :: tail))
      obtain ⟨q, hq, hrest⟩ := ih hquotable.tail hnext
      refine ⟨q, Nat.le_trans hline hq, ?_⟩
      rw [indented_doubledQuotes_cons, List.append_assoc, startsBehind_cons, hread, hrest, hclose]
      simp

end WorkItems.Yaml
