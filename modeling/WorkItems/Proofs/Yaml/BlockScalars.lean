import WorkItems.Proofs.Yaml.BlockStates
import WorkItems.Proofs.Yaml.QuotedLines
/-!
# Scalars outside of flow collections

A scalar is either in front of a colon, as a key, or it ends a line. `IsKey` and `EndsLine` say what
the lexer makes of it there, and hide how it is written.
-/

namespace WorkItems.Yaml

open Lexer

/-! ## The token at the cursor -/

/-- The first character of a plain scalar. -/
structure StartsScalar (inFlow : Bool) (c : Char) (cs : List Char) : Prop where
  indicator : isIndicator c = false
  gap : isSpaceOrBreak c = false
  next : c = '-' ∨ c = '?' ∨ c = ':' → atGap cs = false
  inFlow : inFlow = true → c ≠ '?' ∧ c ≠ ':'

theorem StartsScalar.append {inFlow : Bool} {c : Char} {cs : List Char}
    (h : StartsScalar inFlow c cs) (tail : List Char) : StartsScalar inFlow c (cs ++ tail) where
  indicator := h.indicator
  gap := h.gap
  next hc := by
    have hcs := h.next hc
    rw [atGap_append, hcs]
    rintro rfl
    exact absurd hcs (by decide)
  inFlow := h.inFlow

theorem StartsScalar.startsInLine {inFlow : Bool} {c : Char} {cs : List Char}
    (h : StartsScalar inFlow c cs) (tail : List Char) : StartsInLine (c :: tail) := by
  refine ⟨c, tail, rfl, h.gap, ?_⟩
  rintro rfl
  exact absurd h.indicator (by decide)

/-- A text that is a plain scalar, in front of an end of it. -/
structure IsPlainScalar (flow : Bool) (text : List Char) : Prop extends IsPlain flow text where
  start : ∃ c cs, text = c :: cs ∧ StartsScalar flow c cs
  last : text.getLast? ≠ some ' '

theorem IsPlainScalar.starts {flow : Bool} {text : List Char} (h : IsPlainScalar flow text) :
    StartsInLine text := by
  obtain ⟨c, cs, rfl, hstart⟩ := h.start
  exact hstart.startsInLine cs

/-- A plain scalar inside of flow collections is one outside of them too. -/
theorem IsPlainScalar.outsideFlow {text : List Char} (h : IsPlainScalar true text) :
    IsPlainScalar false text where
  noBreak := h.noBreak
  noTab := h.noTab
  noIndicator := h.noIndicator
  inFlow he := absurd he (by decide)
  start := by
    obtain ⟨c, cs, htext, hstart⟩ := h.start
    exact ⟨c, cs, htext, hstart.indicator, hstart.gap, hstart.next, fun he => absurd he (by decide)⟩
  last := h.last

theorem atMarker_iff {cs : List Char} :
    atMarker cs = true ↔
      ∃ rest, (cs = '-' :: '-' :: '-' :: rest ∨ cs = '.' :: '.' :: '.' :: rest) ∧
        atGap rest = true := by
  constructor
  · intro h
    unfold atMarker at h
    split at h
    · exact ⟨_, .inl rfl, h⟩
    · exact ⟨_, .inr rfl, h⟩
    · cases h
  · rintro ⟨rest, rfl | rfl, h⟩ <;> exact h

/-- What follows a text does not make a marker of it. -/
theorem atMarker_append {text : List Char} {c : Char} (tail : List Char)
    (h : atMarker text = false) (hc : c ≠ '-' ∧ c ≠ '.') (hne : text ≠ []) :
    atMarker (text ++ c :: tail) = false := by
  rw [Bool.eq_false_iff, Ne, atMarker_iff] at h ⊢
  rintro ⟨rest, heq, hgap⟩
  match text with
  | [] => exact hne rfl
  | [a] => simp [hc] at heq
  | [a, b] => simp [hc] at heq
  | a :: b :: d :: cs =>
      have hcs : cs ++ c :: tail = rest := by
        rcases heq with heq | heq <;>
          exact (List.cons.inj (List.cons.inj (List.cons.inj heq).2).2).2
      refine h ⟨cs, ?_, ?_⟩
      · rcases heq with heq | heq <;> simp_all
      · cases cs with
        | nil => rfl
        | cons e es =>
            rw [← hcs] at hgap
            exact hgap

theorem cursor_atMarker_of_text {cs : List Char} {p : Position} (h : atMarker cs = false) :
    Cursor.atMarker ⟨p, cs⟩ = false := by
  rw [Cursor.atMarker, h, Bool.and_false]

theorem cursor_atMarker_of_pos {cs : List Char} {p : Position} (h : 0 < p.column) :
    Cursor.atMarker ⟨p, cs⟩ = false := by
  rw [Cursor.atMarker, Bool.and_eq_false_iff]
  exact .inl (by simp [Cursor.column]; omega)

section Tokens

variable {columns : List Nat} {key : Option SimpleKey} {keyAllowed : Bool} {reversed : List Token}
  {p q : Position} {cs rest : List Char}

theorem saveKey_inBlock :
    saveKey (inBlock columns keyAllowed reversed p cs) =
      .ok (keyed columns (keyBehind columns none keyAllowed reversed p) keyAllowed reversed p cs) :=
  saveKey_keyed (yields_none keyAllowed)

theorem keyLike_keyed {read : Cursor → Except Error (Token × Cursor)} {t : Token}
    (hkey : Yields keyAllowed key) (h : read ⟨p, cs⟩ = .ok (t, ⟨q, rest⟩)) :
    keyLike (keyed columns key keyAllowed reversed p cs) read =
      .ok (keyed columns (keyBehind columns key keyAllowed reversed p) false (t :: reversed) q
        rest) := by
  rw [keyLike, saveKey_keyed hkey]
  simp [keyed, inBlock, bind, Except.bind, h, allowKey, moveTo, emit]

theorem plainToken_keyed {text : String} {onNewLine : Bool} (hkey : Yields keyAllowed key)
    (h : plain false ((columns.head?.map (· + 1)).getD 0) .empty p cs =
      .ok (text, onNewLine, ⟨q, rest⟩)) :
    plainToken (keyed columns key keyAllowed reversed p cs) =
      .ok (keyed columns (keyBehind columns key keyAllowed reversed p) onNewLine
        (.scalar text .plain :: reversed) q rest) := by
  rw [plainToken, saveKey_keyed hkey]
  simp only [keyed, inBlock, inFlow] at h ⊢
  simp [bind, Except.bind, h, allowKey, moveTo, emit]

theorem tokenHere_quote {s : Lexer} (h : s.cursor.rest = '"' :: cs) :
    tokenHere s = keyLike s doubleQuotedToken := by
  simp [tokenHere, h, Cursor.atMarker, Yaml.atMarker]

theorem tokenHere_apostrophe {s : Lexer} (h : s.cursor.rest = '\'' :: cs) :
    tokenHere s = keyLike s singleQuotedToken := by
  simp [tokenHere, h, Cursor.atMarker, Yaml.atMarker]

theorem StartsScalar.startsPlain {inFlow : Bool} {c : Char} (h : StartsScalar inFlow c cs) :
    startsPlain inFlow c cs = true := by
  rw [Lexer.startsPlain]
  split
  · rename_i hc
    have hcs := h.next (.inl (by simpa using hc))
    cases cs with
    | nil => rfl
    | cons d ds =>
        simp only [atGap, isSpaceOrBreak, Bool.or_eq_false_iff] at hcs
        simp [hcs]
  · split
    · rename_i hc
      simp only [Bool.or_eq_true, beq_iff_eq] at hc
      cases inFlow with
      | false => simp [h.next (.inr hc)]
      | true =>
          obtain ⟨hquestion, hcolon⟩ := h.inFlow rfl
          exact absurd hc (by simp [hquestion, hcolon])
    · simp [h.gap, h.indicator]

theorem tokenHere_plain {s : Lexer} {c : Char} (hrest : s.cursor.rest = c :: cs)
    (hmarker : s.cursor.atMarker = false) (h : StartsScalar s.inFlow c cs) :
    tokenHere s = plainToken s := by
  have hne : ∀ d, isIndicator d = true → c ≠ d := by
    rintro d hd rfl
    exact absurd hd (by simp [h.indicator])
  have hdash : (c == '-' && atGap cs) = false := by
    by_cases hc : c = '-'
    · simp [h.next (.inl hc)]
    · simp [hc]
  have hquestion : (c == '?' && (s.inFlow || atGap cs)) = false := by
    by_cases hc : c = '?'
    · cases hflow : s.inFlow with
      | false => simp [h.next (.inr (.inl hc))]
      | true => exact absurd hc (h.inFlow hflow).1
    · simp [hc]
  have hcolon : (c == ':' && (s.inFlow || atGap cs)) = false := by
    by_cases hc : c = ':'
    · cases hflow : s.inFlow with
      | false => simp [h.next (.inr (.inr hc))]
      | true => exact absurd hc (h.inFlow hflow).2
    · simp [hc]
  simp only [tokenHere, hrest, hmarker, hdash, hquestion, hcolon, h.startsPlain]
  simp [hne '%' (by decide), hne '[' (by decide), hne '{' (by decide), hne ']' (by decide),
    hne '}' (by decide), hne ',' (by decide), hne '*' (by decide), hne '&' (by decide),
    hne '!' (by decide), hne '|' (by decide), hne '>' (by decide), hne '\'' (by decide),
    hne '"' (by decide)]

theorem tokenHere_plainKeyed {c : Char} (hmarker : Cursor.atMarker ⟨p, c :: cs⟩ = false)
    (h : StartsScalar false c cs) :
    tokenHere (keyed columns key keyAllowed reversed p (c :: cs)) =
      plainToken (keyed columns key keyAllowed reversed p (c :: cs)) :=
  tokenHere_plain rfl hmarker h

/-- A text between single quotes. -/
def singleQuotes (cs : List Char) : List Char := '\'' :: doubledQuotes cs ++ ['\'']

/-- A text between double quotes, with its characters written by `write`. -/
def doubleQuotes (write : Char → List Char) (cs : List Char) : List Char :=
  '"' :: cs.flatMap write ++ ['"']

theorem tokenHere_singleQuotes {tail : List Char} (hkey : Yields keyAllowed key)
    (h : ∀ c ∈ cs, isBreak c = false) (htail : tail.head? ≠ some '\'') :
    tokenHere (keyed columns key keyAllowed reversed p (singleQuotes cs ++ tail)) =
      .ok (keyed columns (keyBehind columns key keyAllowed reversed p) false
        (.scalar (String.ofList cs) .singleQuoted :: reversed)
        (p.advance (singleQuotes cs).length) tail) := by
  have hread := singleQuoted_append h htail .empty (p.advance 1) .empty (Nat.succ_pos _)
  rw [singleQuotes, List.append_assoc, List.cons_append, List.singleton_append,
    tokenHere_apostrophe rfl]
  refine keyLike_keyed hkey ?_
  simp only [singleQuotedToken, Cursor.skip, List.drop_succ_cons, List.drop_zero, bind, Except.bind,
    hread]
  simp [Folded.empty, Folded.close, Position.advance_advance, Nat.add_comm]

/-- A text over several lines between single quotes. -/
def quotedLines (indent : Nat) (cs : List Char) : List Char :=
  '\'' :: (indented indent false (doubledQuotes cs) ++
    (quoteMargin indent (startsBehind isBreak false cs) ++ ['\'']))

theorem tokenHere_quotedLines {tail : List Char} {indent : Nat} (hkey : Yields keyAllowed key)
    (h : IsQuotable cs) (hindent : 0 < indent) (htail : tail.head? ≠ some '\'') :
    ∃ q : Position, p.line ≤ q.line ∧
      tokenHere (keyed columns key keyAllowed reversed p (quotedLines indent cs ++ tail)) =
        .ok (keyed columns (keyBehind columns key keyAllowed reversed p) false
          (.scalar (String.ofList cs) .singleQuoted :: reversed) q tail) := by
  have hempty : QuotedSoFar false .empty (p.advance 1) cs := .char (Nat.succ_pos _)
  obtain ⟨q, hq, hread⟩ := singleQuoted_indented hindent htail h hempty
  have htext : quotedLines indent cs ++ tail =
      '\'' :: (indented indent false (doubledQuotes cs) ++
        (quoteMargin indent (startsBehind isBreak false cs) ++ '\'' :: tail)) := by
    simp [quotedLines]
  refine ⟨q, hq, ?_⟩
  rw [htext, tokenHere_apostrophe rfl]
  refine keyLike_keyed hkey ?_
  simp only [singleQuotedToken, Cursor.skip, List.drop_succ_cons, List.drop_zero, bind, Except.bind,
    hread]
  simp [Folded.empty, Folded.close]

theorem tokenHere_doubleQuotes {write : Char → List Char} {tail : List Char}
    (hkey : Yields keyAllowed key) (h : ∀ c ∈ cs, Escapes (write c) c) :
    tokenHere (keyed columns key keyAllowed reversed p (doubleQuotes write cs ++ tail)) =
      .ok (keyed columns (keyBehind columns key keyAllowed reversed p) false
        (.scalar (String.ofList cs) .doubleQuoted :: reversed)
        (p.advance (doubleQuotes write cs).length) tail) := by
  have hread := doubleQuoted_flatMap tail h .empty (p.advance 1) .empty (Nat.succ_pos _)
  rw [doubleQuotes, List.append_assoc, List.cons_append, List.singleton_append, tokenHere_quote rfl]
  refine keyLike_keyed hkey ?_
  simp only [doubleQuotedToken, Cursor.skip, List.drop_succ_cons, List.drop_zero, bind, Except.bind,
    hread]
  simp [Folded.empty, Folded.close, Position.advance_advance, Nat.add_comm]

/-- A literal scalar takes the lines below it with it. -/
theorem tokenHere_bar (keyAllowed : Bool) (reversed : List Token) {text : String}
    (hkey : ∀ k, key = some k → k.required = false)
    (h : blockScalar false columns.head? ⟨p.advance 1, cs⟩ = .ok (text, ⟨q, rest⟩)) :
    tokenHere (keyed columns key keyAllowed reversed p ('|' :: cs)) =
      .ok (inBlock columns true (.scalar text .literal :: reversed) q rest) := by
  have hmarker : Cursor.atMarker ⟨p, '|' :: cs⟩ = false := by
    simp [Cursor.atMarker, Yaml.atMarker]
  have hdrop : dropKey (keyed columns key keyAllowed reversed p ('|' :: cs)) =
      .ok (inBlock columns keyAllowed reversed p ('|' :: cs)) := by
    cases key with
    | none => rfl
    | some k => simp [dropKey, keyed, hkey k rfl, inBlock]
  have htoken : tokenHere (keyed columns key keyAllowed reversed p ('|' :: cs)) =
      blockScalarToken (keyed columns key keyAllowed reversed p ('|' :: cs)) false := by
    simp [tokenHere, keyed, inBlock, inFlow, hmarker]
  rw [htoken, blockScalarToken, hdrop]
  simp [inBlock, bind, Except.bind, Cursor.skip, h, allowKey, moveTo, emit]

end Tokens

/-! ## Keys -/

/--
The lexer takes the text for these tokens in front of a colon. What it leaves is the colon, and the
key that is possible there is the one that was possible behind the first token of the text.
-/
def IsKey (text : List Char) (ts : List Token) : Prop :=
  ∀ ⦃columns : List Nat⦄ ⦃key : Option SimpleKey⦄ ⦃keyAllowed : Bool⦄ ⦃reversed : List Token⦄
    ⦃p : Position⦄ ⦃k : SimpleKey⦄ ⦃tail : List Char⦄, Yields keyAllowed key →
    keyBehind columns key keyAllowed reversed p = some k →
    isStale (p.advance text.length) k = false →
    (∀ n, columns.head? = some n → n ≤ p.column) → atGap tail = true →
    Reaches (keyed columns key keyAllowed reversed p (text ++ ':' :: tail))
      (keyed columns (some k) false (ts.reverse ++ reversed) (p.advance text.length) (':' :: tail))

theorem opens_colon (tail : List Char) : Opens (':' :: tail) :=
  opens_cons (by decide) (by decide) (by decide) tail

/-- A single token in front of a colon. -/
theorem isKey_of_token {text : List Char} {t : Token} (hne : text ≠ [])
    (h : ∀ {columns key keyAllowed} reversed p tail, Yields keyAllowed key →
      (∀ n, columns.head? = some n → n ≤ p.column) → atGap tail = true →
      tokenHere (keyed columns key keyAllowed reversed p (text ++ ':' :: tail)) =
        .ok (keyed columns (keyBehind columns key keyAllowed reversed p) false (t :: reversed)
          (p.advance text.length) (':' :: tail))) : IsKey text [t] := by
  intro columns key keyAllowed reversed p k tail hyields hkey hstale hcolumns hgap
  have htoken := h reversed p tail hyields hcolumns hgap
  rw [hkey] at htoken
  have hpos : 0 < text.length := List.length_pos_iff.2 hne
  have hcolumns' : ∀ n, columns.head? = some n → n ≤ (p.advance text.length).column :=
    fun n hn => Nat.le_trans (hcolumns n hn) (Nat.le_add_right _ _)
  refine Arrives.step ⟨_, settle_onLine (skipGap_of_opens (opens_colon tail) ..)
    (refresh_of_not_stale hstale) hcolumns', .refl _⟩ htoken rfl ?_
  simp only [keyed, inBlock, List.length_append, List.length_cons]
  omega

theorem IsPlainScalar.isKey {text : List Char} (h : IsPlainScalar false text)
    (hmarker : atMarker text = false) :
    IsKey text [.scalar (String.ofList text) .plain] := by
  obtain ⟨c, cs, rfl, hstart⟩ := h.start
  refine isKey_of_token (by simp) ?_
  intro columns key keyAllowed reversed p tail hyields hcolumns hgap
  have hmarker' := cursor_atMarker_of_text (p := p)
    (atMarker_append tail (c := ':') hmarker (by decide) (by simp))
  have hindent : (columns.head?.map (· + 1)).getD 0 ≤ p.column + 1 := by
    cases hhead : columns.head? with
    | none => simp
    | some n => simpa using hcolumns n hhead
  exact (tokenHere_plainKeyed hmarker' (hstart.append (':' :: tail))).trans <|
    plainToken_keyed hyields (plain_colon h.toIsPlain h.last hindent hgap)

theorem isKey_singleQuoted {cs : List Char} (h : ∀ c ∈ cs, isBreak c = false) :
    IsKey (singleQuotes cs) [.scalar (String.ofList cs) .singleQuoted] :=
  isKey_of_token (by simp [singleQuotes]) fun _ _ _ hyields _ _ =>
    tokenHere_singleQuotes hyields h (by simp)

theorem isKey_doubleQuoted {write : Char → List Char} {cs : List Char}
    (h : ∀ c ∈ cs, Escapes (write c) c) :
    IsKey (doubleQuotes write cs) [.scalar (String.ofList cs) .doubleQuoted] :=
  isKey_of_token (by simp [doubleQuotes]) fun _ _ _ hyields _ _ => tokenHere_doubleQuotes hyields h

/-- A key that is not too long is one, once its colon is read. -/
theorem IsKey.reaches {text : List Char} {ts : List Token} {columns : List Nat}
    {reversed : List Token} {p : Position} {tail : List Char} {u : Lexer} (h : IsKey text ts)
    (hlength : text.length ≤ 1024) (hcolumns : ∀ n, columns.head? = some n → n ≤ p.column)
    (hgap : atGap tail = true)
    (hu : Arrives (inBlock (opened columns reversed p.column .blockMappingStart).1 false
      (.value :: (ts.reverse ++ .key :: (opened columns reversed p.column .blockMappingStart).2))
      (p.advance (text.length + 1)) tail) u) :
    Reaches (inBlock columns true reversed p (text ++ ':' :: tail)) u := by
  have hstale : isStale (p.advance text.length)
      ⟨columns.head? == some p.column, reversed.length, p⟩ = false := by
    simp [isStale, Position.advance, hlength]
  have hkey := @h columns none true reversed p _ tail (yields_none true) rfl hstale hcolumns hgap
  exact hkey.trans (hu.step (tokenHere_keyColon hgap rfl) rfl (Nat.lt_succ_self _))

/-! ## Scalars that end a line -/

/--
The lexer takes the text for the tokens as the last thing of a line, or of several, inside of a
collection in the column `parent`. The next line is not deeper than that collection.
-/
structure EndsLine (parent : Nat) (text : List Char) (ts : List Token) : Prop where
  starts : StartsInLine text
  reaches : ∀ {columns key} keyAllowed reversed {p n rest}, Optional p.line key →
    columns.head? = some parent → parent < p.column → n ≤ parent → Opens rest →
    ∃ p', p'.column = n ∧
      Reaches (keyed columns key keyAllowed reversed p (text ++ (List.replicate n ' ' ++ rest)))
        (landing columns true (ts.reverse ++ reversed) p' rest)

/-- A scalar that the gap behind it takes to the next line ends its line. -/
theorem reaches_endOfLine {columns : List Nat} {key : Option SimpleKey}
    {keyAllowed keyAllowed' : Bool} {reversed : List Token} {p q p' : Position} {t : Token}
    {cs cs' rest : List Char} (hkey : Optional p.line key)
    (htoken : tokenHere (keyed columns key keyAllowed reversed p cs) =
      .ok (keyed columns (keyBehind columns key keyAllowed reversed p) keyAllowed' (t :: reversed) q
        cs'))
    (hgap : skipGap false false keyAllowed' q cs' = (true, ⟨p', rest⟩))
    (hcolumns : columns.head? ≠ some p.column) (hline : p.line < p'.line)
    (hlength : cs'.length < cs.length) :
    Reaches (keyed columns key keyAllowed reversed p cs)
      (landing columns true (t :: reversed) p' rest) :=
  Arrives.step
    ⟨_, settle_keyed _ hgap
      (refresh_nextLine (hkey.keyBehind hcolumns keyAllowed reversed) hline), .refl _⟩
    htoken rfl hlength

theorem skipGap_nextLine {rest : List Char} (hopens : Opens rest) (keyAllowed : Bool) (p : Position)
    (n : Nat) :
    skipGap false false keyAllowed p ('\n' :: (List.replicate n ' ' ++ rest)) =
      (true, ⟨(p.newline 1).advance n, rest⟩) := by
  rw [skipGap_newline, skipGap_spaces, skipGap_of_opens hopens]
  rfl

theorem ne_head_of_lt {columns : List Nat} {parent column : Nat}
    (h : columns.head? = some parent) (hlt : parent < column) : columns.head? ≠ some column := by
  rw [h]
  simp
  omega

theorem IsPlainScalar.endsLine {text : List Char} (h : IsPlainScalar false text) (parent : Nat) :
    EndsLine parent (text ++ ['\n']) [.scalar (String.ofList text) .plain] := by
  refine ⟨h.starts.append _, ?_⟩
  obtain ⟨c, cs, rfl, hstart⟩ := h.start
  intro columns key keyAllowed reversed p n rest hkey hcolumns hp hn hopens
  have hpos : 0 < p.column := by omega
  have hindent : (columns.head?.map (· + 1)).getD 0 = parent + 1 := by
    rw [hcolumns]
    rfl
  have hread : plain false ((columns.head?.map (· + 1)).getD 0) .empty p
      (c :: cs ++ '\n' :: (List.replicate n ' ' ++ rest)) =
        .ok (String.ofList (c :: cs), true,
          ⟨((p.advance (c :: cs).length).newline 1).advance n, rest⟩) :=
    hindent ▸ plain_newline h.toIsPlain h.last (by omega) (by omega) hopens
  have hstart' := hstart.append ('\n' :: (List.replicate n ' ' ++ rest))
  refine ⟨((p.advance (c :: cs).length).newline 1).advance n, by simp [Position.advance,
    Position.newline], ?_⟩
  rw [List.append_assoc, List.singleton_append]
  refine reaches_endOfLine hkey ((tokenHere_plainKeyed (cursor_atMarker_of_pos hpos) hstart').trans
    (plainToken_keyed (hkey.yields _) hread)) (skipGap_of_opens hopens ..)
    (ne_head_of_lt hcolumns hp)
    (Nat.lt_succ_self _) ?_
  simp only [List.length_append, List.length_cons]
  omega

/-- A quoted scalar is read the same way whatever follows it. -/
theorem endsLine_of_keyLike {parent : Nat} {text : List Char} {t : Token}
    (hstarts : StartsInLine text)
    (h : ∀ {columns key keyAllowed reversed p tail}, Yields keyAllowed key →
      ∃ q : Position, p.line ≤ q.line ∧
        tokenHere (keyed columns key keyAllowed reversed p (text ++ '\n' :: tail)) =
          .ok (keyed columns (keyBehind columns key keyAllowed reversed p) false (t :: reversed) q
            ('\n' :: tail))) :
    EndsLine parent (text ++ ['\n']) [t] := by
  refine ⟨hstarts.append _, ?_⟩
  intro columns key keyAllowed reversed p n rest hkey hcolumns hp _ hopens
  have hpos := hstarts.length_pos
  obtain ⟨q, hq, htoken⟩ := h (hkey.yields _)
  refine ⟨(q.newline 1).advance n, by simp [Position.advance, Position.newline], ?_⟩
  rw [List.append_assoc, List.singleton_append]
  refine reaches_endOfLine hkey htoken (skipGap_nextLine hopens ..) (ne_head_of_lt hcolumns hp)
    (Nat.lt_succ_of_le hq) ?_
  simp only [List.length_append, List.length_cons]
  omega

theorem endsLine_singleQuoted {cs : List Char} (parent : Nat) (h : ∀ c ∈ cs, isBreak c = false) :
    EndsLine parent (singleQuotes cs ++ ['\n']) [.scalar (String.ofList cs) .singleQuoted] :=
  endsLine_of_keyLike ⟨_, _, rfl, by decide, by decide⟩
    fun hyields => ⟨.advance _ _, Nat.le_refl _, tokenHere_singleQuotes hyields h (by simp)⟩

/-- A text over several lines, between single quotes. -/
theorem endsLine_quotedLines {cs : List Char} (parent indent : Nat) (h : IsQuotable cs)
    (hindent : 0 < indent) :
    EndsLine parent (quotedLines indent cs ++ ['\n']) [.scalar (String.ofList cs) .singleQuoted] :=
  endsLine_of_keyLike ⟨_, _, rfl, by decide, by decide⟩
    fun hyields => tokenHere_quotedLines hyields h hindent (by simp)

theorem endsLine_doubleQuoted {write : Char → List Char} {cs : List Char} (parent : Nat)
    (h : ∀ c ∈ cs, Escapes (write c) c) :
    EndsLine parent (doubleQuotes write cs ++ ['\n']) [.scalar (String.ofList cs) .doubleQuoted] :=
  endsLine_of_keyLike ⟨_, _, rfl, by decide, by decide⟩
    fun hyields => ⟨.advance _ _, Nat.le_refl _, tokenHere_doubleQuotes hyields h⟩

theorem endsLine_literal {cs : List Char} {parent blank : Nat} (hkept : KeepsBreaks cs)
    (hmem : '\n' ∈ cs) (htab : '\t' ∉ cs) (hblank : blank ≤ parent + 2) :
    EndsLine parent ('|' :: literalHeader cs ++ '\n' ::
        (laid blank (parent + 2) true cs ++ lineEnding cs))
      [.scalar (String.ofList cs) .literal] := by
  refine ⟨⟨'|', _, rfl, by decide, by decide⟩, ?_⟩
  intro columns key keyAllowed reversed p n rest hkey hcolumns hp hn hopens
  obtain ⟨p', hp', hread⟩ := blockScalar_literal hkept hmem htab (by omega : n < parent + 2)
    hopens hblank (p.advance 1)
  have htoken := tokenHere_bar keyAllowed reversed (fun k hk => (hkey k hk).1) (hcolumns ▸ hread)
  have hsettle := settle_gap columns (.scalar (String.ofList cs) .literal :: reversed)
    (skipGap_of_opens hopens false true p')
  refine ⟨p', hp', Arrives.step ⟨_, hsettle, .refl _⟩ ?_ rfl ?_⟩
  · simpa only [List.append_assoc, List.cons_append] using htoken
  · simp only [keyed, inBlock, List.length_append, List.length_cons]
    omega

end WorkItems.Yaml
