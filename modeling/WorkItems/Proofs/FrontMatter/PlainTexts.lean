import WorkItems.FrontMatter.Quoted
import WorkItems.Proofs.Except
import WorkItems.Proofs.Text.Trim
import WorkItems.Proofs.Yaml.BlockScalars
import WorkItems.Proofs.Yaml.PlainScalars
/-!
# Texts that are read back without quotes

A text without significant characters holds no colon, so no token is put in front of others: the
tokens that the lexer has found stay the first ones. The first of them decides what a text as a
whole is read as.
-/

namespace WorkItems.FrontMatter

open Yaml Yaml.Lexer

/-- None of the characters forces quotes. -/
def Tame (cs : List Char) : Prop := ∀ c ∈ cs, c ∉ significant

theorem Tame.of_suffix {cs ds : List Char} (h : Tame cs) (hsuffix : ds <:+ cs) : Tame ds :=
  fun c hc => h c (hsuffix.mem hc)

/-! ## The tokens stay where they are -/

/-- A token of so many characters at most: a scalar is no longer, and nothing is an alias. -/
def IsWithin (n : Nat) : Token → Prop
  | .scalar text _ => text.toList.length ≤ n
  | .aliasOf _ => False
  | _ => True

theorem IsWithin.mono {m n : Nat} {t : Token} (h : IsWithin m t) (hle : m ≤ n) : IsWithin n t := by
  cases t with
  | scalar text style => exact Nat.le_trans h hle
  | aliasOf name => exact h
  | _ => trivial

/-- The later state has the tokens of the earlier one below its own, and less text. -/
structure Grows (s s' : Lexer) : Prop where
  tokens : ∃ new, s'.reversed = new ++ s.reversed ∧ ∀ t ∈ new, IsWithin s.cursor.rest.length t
  rest : s'.cursor.rest <:+ s.cursor.rest

section Grows

variable {s s' s'' : Lexer}

theorem Grows.of_reversed (h : s'.reversed = s.reversed)
    (hrest : s'.cursor.rest <:+ s.cursor.rest) :
    Grows s s' :=
  ⟨⟨[], h, by simp⟩, hrest⟩

theorem Grows.refl (s : Lexer) : Grows s s := .of_reversed rfl (List.suffix_refl _)

theorem Grows.trans (h : Grows s s') (h' : Grows s' s'') : Grows s s'' := by
  obtain ⟨new, hnew, hwithin⟩ := h.tokens
  obtain ⟨new', hnew', hwithin'⟩ := h'.tokens
  refine ⟨⟨new' ++ new, by rw [hnew', hnew, List.append_assoc], ?_⟩, h'.rest.trans h.rest⟩
  exact List.forall_mem_append.2 ⟨fun t ht => (hwithin' t ht).mono h.rest.length_le, hwithin⟩

theorem Grows.emit (h : Grows s s') {t : Token} (ht : IsWithin s.cursor.rest.length t) :
    Grows s (s'.emit t) := by
  obtain ⟨new, hnew, hwithin⟩ := h.tokens
  exact ⟨⟨t :: new, congrArg (t :: ·) hnew, List.forall_mem_cons.2 ⟨ht, hwithin⟩⟩, h.rest⟩

/-- What the state becomes once a token is read behind some of its text. -/
theorem Grows.token (h : Grows s s') {t : Token} {after : Cursor} {keyAllowed : Bool}
    (ht : IsWithin s.cursor.rest.length t) (hafter : after.rest <:+ s'.cursor.rest) :
    Grows s (((s'.allowKey keyAllowed).moveTo after).emit t) := by
  have hgrows : Grows s ((s'.allowKey keyAllowed).moveTo after) :=
    ⟨h.tokens, hafter.trans h.rest⟩
  exact hgrows.emit ht

theorem grows_closeBlocks (s : Lexer) (isDeeper : Nat → Bool) :
    Grows s (s.closeBlocks isDeeper) := by
  rw [closeBlocks]
  split
  · exact .refl s
  · refine ⟨⟨_, rfl, fun t ht => ?_⟩, List.suffix_refl _⟩
    obtain rfl := List.eq_of_mem_replicate ht
    trivial

theorem grows_openBlock (s : Lexer) (column : Nat) (t : Token)
    (ht : IsWithin s.cursor.rest.length t) : Grows s (s.openBlock column none t) := by
  rw [openBlock]
  split
  · exact .refl s
  · have hgrows : Grows s { s with columns := column :: s.columns } :=
      .of_reversed rfl (List.suffix_refl _)
    exact hgrows.emit ht

theorem grows_dropKey (h : s.dropKey = .ok s') : Grows s s' := by
  rw [dropKey] at h
  split at h
  · split at h
    · cases h
    · cases h
      exact .of_reversed rfl (List.suffix_refl _)
  · cases h
    exact .refl s

theorem grows_saveKey (h : s.saveKey = .ok s') : Grows s s' := by
  rw [saveKey] at h
  split at h
  · obtain ⟨dropped, hdrop, h⟩ := exists_of_bind_eq_ok h
    cases h
    have hgrows := grows_dropKey hdrop
    exact ⟨hgrows.tokens, hgrows.rest⟩
  · cases h
    exact .refl s

theorem grows_refreshKeys (h : s.refreshKeys = .ok s') : Grows s s' := by
  rw [refreshKeys] at h
  obtain ⟨simpleKey, -, h⟩ := exists_of_bind_eq_ok h
  obtain ⟨enclosing, -, h⟩ := exists_of_bind_eq_ok h
  cases h
  exact .of_reversed rfl (List.suffix_refl _)

theorem grows_toNextToken (s : Lexer) : Grows s s.toNextToken :=
  .of_reversed rfl (skipGap_suffix ..)

theorem grows_skip (c : Cursor) (n : Nat) : (c.skip n).rest <:+ c.rest := List.drop_suffix ..

theorem grows_endOfStream (h : s.endOfStream = .ok s') : Grows s s' := by
  obtain ⟨dropped, hdrop, h⟩ := exists_of_bind_eq_ok h
  cases h
  have hgrows := ((grows_closeBlocks s _).trans (grows_dropKey hdrop)).emit
    (t := .streamEnd) trivial
  exact ⟨hgrows.tokens, hgrows.rest⟩

theorem grows_marker {t : Token} (ht : t = .documentStart ∨ t = .documentEnd)
    (h : s.marker t = .ok s') : Grows s s' := by
  obtain ⟨dropped, hdrop, h⟩ := exists_of_bind_eq_ok h
  cases h
  have hwithin : IsWithin s.cursor.rest.length t := by rcases ht with rfl | rfl <;> trivial
  exact ((grows_closeBlocks s _).trans (grows_dropKey hdrop)).token hwithin (grows_skip ..)

theorem grows_blockEntry (h : s.blockEntry = .ok s') : Grows s s' := by
  rw [blockEntry] at h
  split at h
  · cases h
  · obtain ⟨dropped, hdrop, h⟩ := exists_of_bind_eq_ok h
    cases h
    exact ((grows_openBlock s _ .blockSequenceStart trivial).trans (grows_dropKey hdrop)).token
      trivial (grows_skip ..)

theorem grows_explicitKey (h : s.explicitKey = .ok s') : Grows s s' := by
  rw [explicitKey] at h
  split at h
  · cases h
  · obtain ⟨dropped, hdrop, h⟩ := exists_of_bind_eq_ok h
    cases h
    exact ((grows_openBlock s _ .blockMappingStart trivial).trans (grows_dropKey hdrop)).token
      trivial (grows_skip ..)

theorem grows_plainToken (h : s.plainToken = .ok s') : Grows s s' := by
  obtain ⟨saved, hsave, h⟩ := exists_of_bind_eq_ok h
  obtain ⟨⟨text, onNewLine, after⟩, hplain, h⟩ := exists_of_bind_eq_ok h
  cases h
  have hgrows := grows_saveKey hsave
  have hrest := (plain_spec (q := fun _ => True) trivial allChars_empty (by simp) hplain).1
  have hlength : text.toList.length ≤ saved.cursor.rest.length := by
    simpa [Folded.size, Folded.empty] using length_plain hplain
  exact hgrows.token (Nat.le_trans hlength hgrows.rest.length_le) hrest

/-- A token of a tame text. -/
theorem tokenHere_tame (htame : Tame s.cursor.rest) (h : s.tokenHere = .ok s') :
    s.endOfStream = .ok s' ∨
      (∃ t, (t = .documentStart ∨ t = .documentEnd) ∧ s.marker t = .ok s') ∨
      s.blockEntry = .ok s' ∨ s.explicitKey = .ok s' ∨ s.plainToken = .ok s' := by
  rw [tokenHere] at h
  split at h
  · exact .inl h
  · rename_i c cs hrest
    have hne : ∀ d ∈ significant, (c == d) = false := by
      intro d hd
      rw [beq_eq_false_iff_ne]
      rintro rfl
      exact htame c (by rw [hrest]; exact List.mem_cons_self ..) hd
    simp only [hne '%' (by decide), hne '[' (by decide), hne '{' (by decide), hne ']' (by decide),
      hne '}' (by decide), hne ',' (by decide), hne ':' (by decide), hne '*' (by decide),
      hne '&' (by decide), hne '!' (by decide), hne '|' (by decide), hne '>' (by decide),
      hne '\'' (by decide), hne '"' (by decide), Bool.and_false, Bool.false_and, Bool.false_eq_true,
      if_false] at h
    split at h
    · refine .inr (.inl ⟨_, ?_, h⟩)
      split
      · exact .inl rfl
      · exact .inr rfl
    · split at h
      · exact .inr (.inr (.inl h))
      · split at h
        · exact .inr (.inr (.inr (.inl h)))
        · split at h
          · exact .inr (.inr (.inr (.inr h)))
          · cases h

theorem grows_tokenHere (htame : Tame s.cursor.rest) (h : s.tokenHere = .ok s') : Grows s s' := by
  rcases tokenHere_tame htame h with h | ⟨t, ht, h⟩ | h | h | h
  · exact grows_endOfStream h
  · exact grows_marker ht h
  · exact grows_blockEntry h
  · exact grows_explicitKey h
  · exact grows_plainToken h

theorem grows_next (htame : Tame s.cursor.rest) (h : s.next = .ok s') : Grows s s' := by
  obtain ⟨refreshed, hrefresh, h⟩ := exists_of_bind_eq_ok h
  have hgrows := ((grows_toNextToken s).trans (grows_refreshKeys hrefresh)).trans
    (grows_closeBlocks refreshed fun n => refreshed.column < n)
  exact hgrows.trans (grows_tokenHere (htame.of_suffix hgrows.rest) h)

theorem grows_run {fuel : Nat} (htame : Tame s.cursor.rest) (h : run fuel s = .ok s') :
    Grows s s' := by
  induction fuel generalizing s with
  | zero =>
      cases h
      exact .refl _
  | succ fuel ih =>
      rw [run] at h
      split at h
      · cases h
        exact .refl _
      · obtain ⟨t, hnext, h⟩ := exists_of_bind_eq_ok h
        have hgrows := grows_next htame hnext
        exact hgrows.trans (ih (htame.of_suffix hgrows.rest) h)

end Grows

/-! ## Texts that need no quotes for their characters -/

/-- What a text has that needs no quotes for its characters alone. -/
structure Unquoted (cs : List Char) : Prop where
  tame : Tame cs
  trimmed : Text.Trimmed cs
  start : ∃ c rest, cs = c :: rest ∧ c ∉ leadingIndicators

theorem unquoted_iff {s : String} : Unquoted s.toList ↔ needsQuotes s = false := by
  rw [needsQuotes]
  constructor
  · rintro ⟨htame, htrimmed, c, rest, hcs, hleading⟩
    have hany : s.toList.any significant.contains = false := by
      rw [List.any_eq_false]
      intro d hd
      simpa using htame d hd
    have htrim := Text.trimmed_iff.1 htrimmed
    simp only [hany, htrim]
    simp [hcs, hleading]
  · intro h
    simp only [Bool.or_eq_false_iff, bne_eq_false_iff_eq] at h
    obtain ⟨⟨⟨hempty, htrim⟩, hany⟩, hleading⟩ := h
    refine ⟨fun c hc => ?_, Text.trimmed_iff.2 htrim, ?_⟩
    · simpa using List.any_eq_false.1 hany c hc
    · cases hcs : s.toList with
      | nil => simp [hcs] at hempty
      | cons c rest =>
          rw [hcs] at hleading
          exact ⟨c, rest, rfl, by simpa using hleading⟩

theorem isBlank_of_isSpaceOrBreak {c : Char} (h : isSpaceOrBreak c = true) :
    Text.isBlank c = true := by
  simp only [isSpaceOrBreak, isSpace, isBreak, Bool.or_eq_true, beq_iff_eq] at h
  rcases h with (rfl | rfl) | (((rfl | rfl) | rfl) | rfl) | rfl <;> decide

namespace Unquoted

variable {cs : List Char}

theorem startsScalar (h : Unquoted cs) (inFlow : Bool) :
    ∃ c rest, cs = c :: rest ∧ StartsScalar inFlow c rest := by
  obtain ⟨c, rest, rfl, hleading⟩ := h.start
  have hsignificant : c ∉ significant := h.tame c (List.mem_cons_self ..)
  have hne : ∀ d, d ∈ significant ∨ d ∈ leadingIndicators → c ≠ d := by
    rintro d (hd | hd) rfl
    · exact hsignificant hd
    · exact hleading hd
  have hindicator : isIndicator c = false := by
    have hall : ∀ d ∈ ",[]\x7b\x7d#&*!|>'\"%@\x60".toList,
        d ∈ significant ∨ d ∈ leadingIndicators := by
      decide
    rw [isIndicator, List.contains_eq_mem, decide_eq_false_iff_not]
    exact fun hmem => hne c (hall c hmem) rfl
  have hgap : isSpaceOrBreak c = false := by
    cases hc : isSpaceOrBreak c with
    | false => rfl
    | true => exact absurd (isBlank_of_isSpaceOrBreak hc) (by simp [h.trimmed.head c rfl])
  refine ⟨c, rest, rfl, hindicator, hgap, ?_, fun _ => ⟨hne '?' (by decide), hne ':' (by decide)⟩⟩
  rintro (hc | hc | hc)
  · exact absurd hc (hne '-' (by decide))
  · exact absurd hc (hne '?' (by decide))
  · exact absurd hc (hne ':' (by decide))

theorem startsInLine (h : Unquoted cs) : StartsInLine cs := by
  obtain ⟨c, rest, rfl, hstart⟩ := h.startsScalar false
  exact hstart.startsInLine rest

theorem hasInnerIndicator {cs : List Char} (h : Tame cs) : Yaml.hasInnerIndicator cs = false := by
  induction cs with
  | nil => rfl
  | cons c cs ih =>
      have hcolon : c ≠ ':' := fun hc => h c (List.mem_cons_self ..) (hc ▸ by decide)
      have hhash : cs.head? ≠ some '#' := by
        intro hd
        exact h '#' (List.mem_cons_of_mem _ (List.mem_of_head? hd)) (by decide)
      rw [Yaml.hasInnerIndicator, ih fun d hd => h d (List.mem_cons_of_mem _ hd)]
      simp [hcolon, hhash]

theorem isPlainScalar (h : Unquoted cs) (hbreak : ∀ c ∈ cs, isBreak c = false) :
    IsPlainScalar true cs where
  noBreak := hbreak
  noTab htab := h.tame _ htab (by decide)
  noIndicator := hasInnerIndicator h.tame
  inFlow _ c hc := by
    have hne : ∀ d ∈ significant, c ≠ d := by
      rintro d hd rfl
      exact h.tame c hc hd
    refine ⟨?_, hne ':' (by decide)⟩
    simp [isFlowIndicator, hne ',' (by decide), hne '[' (by decide), hne ']' (by decide),
      hne '{' (by decide), hne '}' (by decide)]
  start := h.startsScalar true
  last hlast := absurd (h.trimmed.last _ hlast) (by decide)

end Unquoted

/-! ## The first token of such a text -/

/-- The tokens of a tame text start with the first that is found. -/
theorem tokens_tame {cs : List Char} {ts : List Token} (htame : Tame cs) (hopens : Opens cs)
    (htokens : tokens cs = .ok ts) :
    ∃ s, (inBlock [] true [] .start cs).tokenHere = .ok s ∧ s.reversed.reverse <+: ts := by
  have hstart : Lexer.start cs = inBlock [] true [] .start cs := rfl
  have hlanding : landing [] true [] .start cs = inBlock [] true [] .start cs :=
    landing_of_le (by simp)
  rw [tokens] at htokens
  split at htokens
  · cases htokens
  · obtain ⟨s', hrun, htokens⟩ := exists_of_bind_eq_ok htokens
    cases htokens
    rw [hstart, run_succ rfl, settle_gap _ _ (skipGap_of_opens hopens ..), hlanding] at hrun
    change goOn _ (inBlock [] true [] .start cs) = .ok s' at hrun
    obtain ⟨s, htoken, hrun⟩ := exists_of_bind_eq_ok hrun
    have hgrows := grows_tokenHere htame htoken
    obtain ⟨new, hnew, -⟩ := (grows_run (htame.of_suffix hgrows.rest) hrun).tokens
    exact ⟨s, htoken, List.reverse_prefix.2 (hnew ▸ List.suffix_append ..)⟩

/-- A byte order mark in front of a tame text belongs to no token. -/
theorem tokens_behindMark {cs : List Char} {ts : List Token} (htame : Tame cs)
    (htokens : tokens ('\ufeff' :: cs) = .ok ts) : ∀ t ∈ ts, IsWithin cs.length t := by
  have hgap : (Lexer.start ('\ufeff' :: cs)).toNextToken =
      (inBlock [] true [] (Position.start.advance 1) cs).toNextToken := by
    simp only [toNextToken, Lexer.start, inBlock, inFlow]
    rw [skipGap.eq_3 _ _ _ _ _ _ (by simp)]
    simp [isBreak, Position.start]
  have hsettle : (Lexer.start ('\ufeff' :: cs)).settle =
      (inBlock [] true [] (Position.start.advance 1) cs).settle := by
    rw [settle, hgap, settle]
  rw [tokens] at htokens
  split at htokens
  · cases htokens
  · have hrun : run (('\ufeff' :: cs).length + 2) (Lexer.start ('\ufeff' :: cs)) =
        run (('\ufeff' :: cs).length + 2) (inBlock [] true [] (Position.start.advance 1) cs) := by
      rw [run_succ rfl, run_succ rfl, hsettle]
    obtain ⟨s, hs, htokens⟩ := exists_of_bind_eq_ok htokens
    cases htokens
    obtain ⟨new, hnew, hwithin⟩ := (grows_run htame (hrun ▸ hs)).tokens
    intro t ht
    rw [hnew, List.mem_reverse] at ht
    exact hwithin t (by simpa [inBlock] using ht)

/-- The only marker that does not start with a dash. -/
theorem tokenHere_marker {cs : List Char} {s : Lexer} (h : Unquoted cs)
    (hmarker : atMarker cs = true) (htoken : (inBlock [] true [] .start cs).tokenHere = .ok s) :
    s.reversed = [.documentEnd] := by
  have hcursor : (inBlock [] true [] .start cs).cursor.atMarker = true := by
    simp [inBlock, Cursor.atMarker, Cursor.column, Position.start, hmarker]
  obtain ⟨rest, hcs | hcs, -⟩ := atMarker_iff.1 hmarker
  · subst hcs
    obtain ⟨c, rest, hcs, hleading⟩ := h.start
    obtain ⟨rfl, -⟩ := List.cons.inj hcs
    exact absurd (by decide) hleading
  · subst hcs
    simp only [tokenHere, hcursor] at htoken
    simp [marker, inBlock, closeBlocks, inFlow, dropKey, bind, Except.bind, allowKey, indicator,
      moveTo, emit] at htoken
    rw [← htoken]

/-- A text that is no marker starts with a plain scalar. -/
theorem tokenHere_unquoted {cs : List Char} {s : Lexer} (h : Unquoted cs)
    (hmarker : atMarker cs = false) (htoken : (inBlock [] true [] .start cs).tokenHere = .ok s) :
    ∃ text onNewLine after, plain false 0 .empty .start cs = .ok (text, onNewLine, after) ∧
      s.reversed = [.scalar text .plain] := by
  obtain ⟨c, rest, rfl, hstart⟩ := h.startsScalar false
  have hplainToken : tokenHere (inBlock [] true [] .start (c :: rest)) =
      plainToken (inBlock [] true [] .start (c :: rest)) :=
    tokenHere_plain rfl (cursor_atMarker_of_text hmarker) hstart
  rw [hplainToken] at htoken
  cases hplain : plain false 0 .empty .start (c :: rest) with
  | error e =>
      rw [plainToken, saveKey_inBlock] at htoken
      simp [keyed, inBlock, inFlow, bind, Except.bind, hplain] at htoken
  | ok result =>
      obtain ⟨text, onNewLine, after⟩ := result
      obtain rfl := Except.ok.inj (htoken.symm.trans (plainToken_keyed (yields_none true) hplain))
      exact ⟨text, onNewLine, after, rfl, rfl⟩

end WorkItems.FrontMatter
