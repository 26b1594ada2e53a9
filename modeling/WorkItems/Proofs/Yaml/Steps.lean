import WorkItems.Yaml.Token.Lexer
/-!
# Steps of the lexer

A step of the lexer is the gap in front of a token and the token itself. It is easier to follow the
other way round: a lexer is *settled* when the gap is behind it, and goes from one settled state to
the next by reading a token and the gap that follows (`Reaches`).

Every step but the last reads a character, so a run that has as much fuel as there are characters
does not stop early, and `Reaches` need not count its steps: that it does not take more of them than
it reads characters is part of it.
-/

namespace WorkItems.Yaml

namespace Position

theorem advance_advance (p : Position) (m n : Nat) :
    (p.advance m).advance n = p.advance (m + n) := by
  simp [advance, Nat.add_assoc]

theorem advance_zero (p : Position) : p.advance 0 = p := rfl

end Position

namespace Lexer

/-! ## Settled states -/

/-- Behind the gap in front of the next token. -/
def settle (s : Lexer) : Except Error Lexer := do
  let s ← s.toNextToken.refreshKeys
  .ok (s.closeBlocks fun n => s.column < n)

/-- A run that starts in a settled state. -/
def goOn (fuel : Nat) (t : Lexer) : Except Error Lexer := t.tokenHere.bind (run fuel)

theorem next_eq (s : Lexer) : s.next = s.settle.bind tokenHere := by
  simp only [next, settle]
  cases s.toNextToken.refreshKeys <;> rfl

theorem run_succ {s : Lexer} (h : s.ended = false) (fuel : Nat) :
    run (fuel + 1) s = s.settle.bind (goOn fuel) := by
  rw [run, h, next_eq]
  cases s.settle <;> rfl

/-- From one settled state to another, in no more steps than there are characters between them. -/
def Reaches (t u : Lexer) : Prop :=
  ∃ n, n + u.cursor.rest.length ≤ t.cursor.rest.length ∧
    ∀ fuel, goOn (n + fuel) t = goOn fuel u

theorem Reaches.refl (t : Lexer) : Reaches t t := ⟨0, by omega, fun _ => by rw [Nat.zero_add]⟩

theorem Reaches.trans {t u v : Lexer} (h : Reaches t u) (h' : Reaches u v) : Reaches t v := by
  obtain ⟨n, hn, hrun⟩ := h
  obtain ⟨m, hm, hrun'⟩ := h'
  refine ⟨n + m, by omega, fun fuel => ?_⟩
  rw [Nat.add_assoc, hrun, hrun']

/-- From a state with a gap in front of it. -/
def Arrives (s u : Lexer) : Prop := ∃ t, s.settle = .ok t ∧ Reaches t u

theorem Arrives.trans {s t u : Lexer} (h : Arrives s t) (h' : Reaches t u) : Arrives s u := by
  obtain ⟨t', hsettle, hreach⟩ := h
  exact ⟨t', hsettle, hreach.trans h'⟩

/-! ## The gap -/

/-- Text that starts with a token or is empty, and has other text of its line in front of it. -/
def OpensInLine (cs : List Char) : Prop :=
  ∀ c, cs.head? = some c → isSpaceOrBreak c = false ∧ c ≠ '#'

/-- Text that starts with a token or is empty, also where a line starts. -/
def Opens (cs : List Char) : Prop := OpensInLine cs ∧ cs.head? ≠ some '\ufeff'

/-- The text starts with a token, if other text of its line stands in front of it. -/
def StartsInLine (text : List Char) : Prop :=
  ∃ c cs, text = c :: cs ∧ isSpaceOrBreak c = false ∧ c ≠ '#'

/-- The text starts with a token, also where a line starts. -/
def StartsToken (text : List Char) : Prop :=
  ∃ c cs, text = c :: cs ∧ isSpaceOrBreak c = false ∧ c ≠ '#' ∧ c ≠ '\ufeff'

theorem StartsInLine.opens {text : List Char} (h : StartsInLine text) (tail : List Char) :
    OpensInLine (text ++ tail) := by
  obtain ⟨c, cs, rfl, hgap, hcomment⟩ := h
  intro d hd
  obtain rfl : c = d := Option.some.inj hd
  exact ⟨hgap, hcomment⟩

theorem StartsInLine.append {text : List Char} (h : StartsInLine text) (tail : List Char) :
    StartsInLine (text ++ tail) := by
  obtain ⟨c, cs, rfl, hstart⟩ := h
  exact ⟨c, cs ++ tail, rfl, hstart⟩

theorem StartsInLine.length_pos {text : List Char} (h : StartsInLine text) : 0 < text.length := by
  obtain ⟨c, cs, rfl, -, -⟩ := h
  exact Nat.succ_pos _

theorem StartsInLine.startsToken {text : List Char} (h : StartsInLine text)
    (hmark : text.head? ≠ some '\ufeff') : StartsToken text := by
  obtain ⟨c, cs, rfl, hgap, hcomment⟩ := h
  exact ⟨c, cs, rfl, hgap, hcomment, fun he => hmark (congrArg some he)⟩

theorem StartsToken.inLine {text : List Char} (h : StartsToken text) : StartsInLine text := by
  obtain ⟨c, cs, rfl, hgap, hcomment, -⟩ := h
  exact ⟨c, cs, rfl, hgap, hcomment⟩

theorem StartsToken.opens {text : List Char} (h : StartsToken text) (tail : List Char) :
    Opens (text ++ tail) := by
  refine ⟨h.inLine.opens tail, ?_⟩
  obtain ⟨c, cs, rfl, -, -, hmark⟩ := h
  exact fun he => hmark (Option.some.inj he)

theorem StartsToken.append {text : List Char} (h : StartsToken text) (tail : List Char) :
    StartsToken (text ++ tail) := by
  obtain ⟨c, cs, rfl, hstart⟩ := h
  exact ⟨c, cs ++ tail, rfl, hstart⟩

theorem opens_cons {c : Char} (h : isSpaceOrBreak c = false) (hc : c ≠ '#') (hmark : c ≠ '\ufeff')
    (tail : List Char) : Opens (c :: tail) :=
  StartsToken.opens ⟨c, [], rfl, h, hc, hmark⟩ tail

/-- There is no gap in front of a token, unless a byte order mark is the first of its line. -/
theorem skipGap_eq_self {cs : List Char} {p : Position} (h : OpensInLine cs)
    (hmark : p.column = 0 → cs.head? ≠ some '\ufeff') (inFlow keyAllowed : Bool) :
    skipGap inFlow false keyAllowed p cs = (keyAllowed, ⟨p, cs⟩) := by
  cases cs with
  | nil => rw [skipGap]
  | cons c cs =>
      obtain ⟨hgap, hcomment⟩ := h c rfl
      simp only [isSpaceOrBreak, isSpace, Bool.or_eq_false_iff, beq_eq_false_iff_ne] at hgap
      have hcr : ∀ ds, c = '\r' → cs = '\n' :: ds → False := by
        rintro ds rfl
        exact absurd hgap.2 (by decide)
      have hmark' : (p.column == 0 && c == '\ufeff') = false := by
        simpa using fun hp => mt (congrArg some) (hmark hp)
      rw [skipGap.eq_3 _ _ _ _ _ _ hcr]
      simp [hgap, hcomment, hmark']

theorem skipGap_of_opens {cs : List Char} (h : Opens cs) (inFlow keyAllowed : Bool)
    (p : Position) : skipGap inFlow false keyAllowed p cs = (keyAllowed, ⟨p, cs⟩) :=
  skipGap_eq_self h.1 (fun _ => h.2) ..

theorem skipGap_space (inFlow keyAllowed : Bool) (p : Position) (cs : List Char) :
    skipGap inFlow false keyAllowed p (' ' :: cs) =
      skipGap inFlow false keyAllowed (p.advance 1) cs := by
  rw [skipGap.eq_3 _ _ _ _ _ _ (by simp)]
  simp [isBreak]

theorem skipGap_spaces {cs : List Char} (inFlow keyAllowed : Bool) (n : Nat) :
    ∀ p : Position, skipGap inFlow false keyAllowed p (List.replicate n ' ' ++ cs) =
      skipGap inFlow false keyAllowed (p.advance n) cs := by
  induction n with
  | zero => exact fun p => rfl
  | succ n ih =>
      intro p
      rw [List.replicate_succ, List.cons_append, skipGap_space, ih, Position.advance_advance,
        Nat.add_comm]

theorem skipGap_newline {cs : List Char} (inFlow keyAllowed : Bool) (p : Position) :
    skipGap inFlow false keyAllowed p ('\n' :: cs) =
      skipGap inFlow false (!inFlow || keyAllowed) (p.newline 1) cs := by
  rw [skipGap.eq_3 _ _ _ _ _ _ (by simp)]
  simp [isBreak]

/-- The gap does not put characters back. -/
theorem skipGap_suffix (inFlow inComment keyAllowed : Bool) (p : Position) (cs : List Char) :
    (skipGap inFlow inComment keyAllowed p cs).2.rest <:+ cs := by
  fun_induction skipGap inFlow inComment keyAllowed p cs with
  | case1 => exact List.suffix_refl _
  | case2 _ _ _ cs ih => exact ih.trans ((List.suffix_cons ..).trans (List.suffix_cons ..))
  | case3 _ _ _ c cs _ _ ih => exact ih.trans (List.suffix_cons ..)
  | case4 _ _ _ c cs _ _ _ ih => exact ih.trans (List.suffix_cons ..)
  | case5 _ _ _ c cs _ _ _ _ ih => exact ih.trans (List.suffix_cons ..)
  | case6 => exact List.suffix_refl _

@[simp]
theorem closeBlocks_cursor (s : Lexer) (isDeeper : Nat → Bool) :
    (s.closeBlocks isDeeper).cursor = s.cursor := by
  rw [closeBlocks]
  split <;> rfl

theorem length_settle {s t : Lexer} (h : s.settle = .ok t) :
    t.cursor.rest.length ≤ s.cursor.rest.length := by
  have hgap : s.toNextToken.cursor.rest.length ≤ s.cursor.rest.length :=
    (skipGap_suffix ..).length_le
  simp only [settle, refreshKeys, bind, Except.bind] at h
  split at h
  · cases h
  · rename_i hkeys
    split at hkeys
    · cases hkeys
    · split at hkeys
      · cases hkeys
      · cases hkeys
        cases h
        rw [closeBlocks_cursor]
        exact hgap

/-- A token that is read is a step. -/
theorem Arrives.step {t s u : Lexer} (h : Arrives s u) (htoken : t.tokenHere = .ok s)
    (hended : s.ended = false) (hlength : s.cursor.rest.length < t.cursor.rest.length) :
    Reaches t u := by
  obtain ⟨t', hsettle, n, hn, hrun⟩ := h
  have hle := length_settle hsettle
  refine ⟨n + 1, by omega, fun fuel => ?_⟩
  have hfuel : n + 1 + fuel = (n + fuel) + 1 := by omega
  rw [goOn, htoken, Except.bind, hfuel, run_succ hended, hsettle, Except.bind, hrun]

end Lexer
end WorkItems.Yaml
