import WorkItems.Proofs.Yaml.Steps
/-!
# The lexer outside of flow collections

`inBlock` is the state in front of a token, outside of flow collections and without a possible
simple key; `keyed` is one with such a key, which something on the line before the token may have
been. Where a new line is reached the collections that are deeper than it close: `landing` is the
state behind that.
-/

namespace WorkItems.Yaml.Lexer

/-- The state at `cs`, with open block collections in `columns` and the tokens `reversed`. -/
def inBlock (columns : List Nat) (keyAllowed : Bool) (reversed : List Token) (p : Position)
    (cs : List Char) : Lexer where
  cursor := ⟨p, cs⟩
  columns
  simpleKey := none
  enclosing := []
  keyAllowed
  reversed
  count := reversed.length
  ended := false

/-- The state at `cs` with a possible simple key, if there is one. -/
def keyed (columns : List Nat) (key : Option SimpleKey) (keyAllowed : Bool) (reversed : List Token)
    (p : Position) (cs : List Char) : Lexer :=
  { inBlock columns keyAllowed reversed p cs with simpleKey := key }

/-- The state at `cs` once the collections that are deeper than it are closed. -/
def landing (columns : List Nat) (keyAllowed : Bool) (reversed : List Token) (p : Position)
    (cs : List Char) : Lexer :=
  (inBlock columns keyAllowed reversed p cs).closeBlocks fun n => p.column < n

/-! ## Possible keys -/

/-- A possible key that need not be one, on the line `line` or above it. -/
def Optional (line : Nat) (key : Option SimpleKey) : Prop :=
  ∀ k, key = some k → k.required = false ∧ k.position.line ≤ line

theorem optional_none {line : Nat} : Optional line none := by
  intro k hk
  cases hk

/-- On the next line a possible key that need not be one is given up. -/
theorem refresh_nextLine {key : Option SimpleKey} {line : Nat} {q : Position}
    (h : Optional line key) (hline : line < q.line) : refresh q key = .ok none := by
  cases key with
  | none => rfl
  | some k =>
      obtain ⟨hrequired, hle⟩ := h k rfl
      have hlt : k.position.line < q.line := by omega
      simp [refresh, isStale, hlt, hrequired]

theorem refresh_optional {key : Option SimpleKey} {p : Position} (h : Optional p.line key) :
    ∃ key', refresh p key = .ok key' ∧ Optional p.line key' := by
  cases key with
  | none => exact ⟨none, rfl, h⟩
  | some k =>
      by_cases hstale : isStale p k = true
      · exact ⟨none, by simp [refresh, hstale, (h k rfl).1], optional_none⟩
      · exact ⟨some k, by simp [refresh, hstale], h⟩

/-- In front of a token a key that is given up is none that is required. -/
def Yields (keyAllowed : Bool) (key : Option SimpleKey) : Prop :=
  keyAllowed = true → ∀ k, key = some k → k.required = false

theorem yields_none (keyAllowed : Bool) : Yields keyAllowed none := fun _ _ hk => nomatch hk

theorem Optional.yields {line : Nat} {key : Option SimpleKey} (h : Optional line key)
    (keyAllowed : Bool) : Yields keyAllowed key := fun _ k hk => (h k hk).1

/-- The possible key behind a token that may itself be one. -/
def keyBehind (columns : List Nat) (key : Option SimpleKey) (keyAllowed : Bool)
    (reversed : List Token) (p : Position) : Option SimpleKey :=
  if keyAllowed then some ⟨columns.head? == some p.column, reversed.length, p⟩ else key

/-- To the right of the column of the innermost collection no key is required. -/
theorem Optional.keyBehind {columns : List Nat} {key : Option SimpleKey} {p : Position}
    (h : Optional p.line key) (hcolumns : columns.head? ≠ some p.column) (keyAllowed : Bool)
    (reversed : List Token) : Optional p.line (keyBehind columns key keyAllowed reversed p) := by
  cases keyAllowed with
  | false => exact h
  | true =>
      intro k hk
      obtain rfl := Option.some.inj hk
      exact ⟨by simpa using hcolumns, Nat.le_refl _⟩

theorem saveKey_keyed {columns : List Nat} {key : Option SimpleKey} {keyAllowed : Bool}
    {reversed : List Token} {p : Position} {cs : List Char} (h : Yields keyAllowed key) :
    saveKey (keyed columns key keyAllowed reversed p cs) =
      .ok (keyed columns (keyBehind columns key keyAllowed reversed p) keyAllowed reversed p
        cs) := by
  cases keyAllowed with
  | false => rfl
  | true =>
      cases key with
      | none =>
          simp [saveKey, keyed, inBlock, Lexer.keyBehind, inFlow, dropKey, bind, Except.bind,
            column, Cursor.column]
      | some k =>
          have hrequired := h rfl k rfl
          simp [saveKey, keyed, inBlock, Lexer.keyBehind, inFlow, dropKey, hrequired, bind,
            Except.bind, column, Cursor.column]

section Landing

variable {columns : List Nat} {keyAllowed : Bool} {reversed : List Token} {p : Position}
  {cs : List Char}

/-- A collection that is deeper closes. -/
theorem landing_of_lt {n : Nat} (h : p.column < n) :
    landing (n :: columns) keyAllowed reversed p cs =
      landing columns keyAllowed (.blockEnd :: reversed) p cs := by
  have htokens : ∀ k, List.replicate (k + 1) Token.blockEnd ++ reversed =
      List.replicate k Token.blockEnd ++ Token.blockEnd :: reversed := by
    intro k
    rw [List.replicate_succ', List.append_assoc]
    rfl
  simp [landing, closeBlocks, inBlock, inFlow, h, htokens]
  omega

/-- Where the innermost collection is not deeper, none closes. -/
theorem closeBlocks_of_head {s : Lexer} {isDeeper : Nat → Bool}
    (h : ∀ n, s.columns.head? = some n → isDeeper n = false) : s.closeBlocks isDeeper = s := by
  have hnone : s.columns.takeWhile isDeeper = [] := by
    cases hcolumns : s.columns with
    | nil => rfl
    | cons n ns => simp [h n (by rw [hcolumns]; rfl)]
  rw [closeBlocks, hnone]
  split <;> rfl

theorem landing_of_le (h : ∀ n, columns.head? = some n → n ≤ p.column) :
    landing columns keyAllowed reversed p cs = inBlock columns keyAllowed reversed p cs :=
  closeBlocks_of_head fun n hn => by simpa using h n hn

/-- The gap behind a token, if it makes an end of the simple key that may have started there. -/
theorem settle_keyed (key : Option SimpleKey) {keyAllowed' : Bool} {p' : Position}
    {cs' : List Char} (hgap : skipGap false false keyAllowed p cs = (keyAllowed', ⟨p', cs'⟩))
    (hkey : refresh p' key = .ok none) :
    settle (keyed columns key keyAllowed reversed p cs) =
      .ok (landing columns keyAllowed' reversed p' cs') := by
  simp [settle, toNextToken, keyed, inBlock, inFlow, hgap, refreshKeys, hkey, bind, Except.bind,
    landing]
  rfl

theorem settle_gap (columns : List Nat) (reversed : List Token) {keyAllowed' : Bool} {p' : Position}
    {cs' : List Char} (hgap : skipGap false false keyAllowed p cs = (keyAllowed', ⟨p', cs'⟩)) :
    settle (inBlock columns keyAllowed reversed p cs) =
      .ok (landing columns keyAllowed' reversed p' cs') :=
  settle_keyed none hgap rfl

/-- The gap behind a token on its line. -/
theorem settle_onLine {key key' : Option SimpleKey} {keyAllowed' : Bool} {p' : Position}
    {cs' : List Char} (hgap : skipGap false false keyAllowed p cs = (keyAllowed', ⟨p', cs'⟩))
    (hkey : refresh p' key = .ok key') (h : ∀ n, columns.head? = some n → n ≤ p'.column) :
    settle (keyed columns key keyAllowed reversed p cs) =
      .ok (keyed columns key' keyAllowed' reversed p' cs') := by
  have hclose : ∀ s : Lexer, s.columns = columns → s.column = p'.column →
      (s.closeBlocks fun n => s.column < n) = s := by
    intro s hs hcolumn
    refine closeBlocks_of_head fun n hn => ?_
    rw [hs] at hn
    simpa [hcolumn] using h n hn
  simp only [settle, toNextToken, keyed, inBlock, inFlow, List.isEmpty_nil, Bool.not_true, hgap,
    refreshKeys, hkey, bind, Except.bind]
  exact congrArg Except.ok (hclose _ rfl rfl)

/-- A space behind a token, and another token. -/
theorem settle_space (keyAllowed : Bool) (reversed : List Token) {key key' : Option SimpleKey}
    (hopens : OpensInLine cs) (hkey : refresh (p.advance 1) key = .ok key')
    (h : ∀ n, columns.head? = some n → n ≤ (p.advance 1).column) :
    settle (keyed columns key keyAllowed reversed p (' ' :: cs)) =
      .ok (keyed columns key' keyAllowed reversed (p.advance 1) cs) :=
  settle_onLine ((skipGap_space ..).trans
    (skipGap_eq_self hopens (fun h => absurd h (Nat.succ_ne_zero _)) ..)) hkey h

/-- What is near enough to be a key is so further to the left too. -/
theorem isStale_advance {k : SimpleKey} {m n : Nat} (h : isStale (p.advance n) k = false)
    (hle : m ≤ n) : isStale (p.advance m) k = false := by
  simp only [isStale, Position.advance, Bool.or_eq_false_iff] at h ⊢
  exact ⟨h.1, decide_eq_false fun hlt => of_decide_eq_false h.2 (by omega)⟩

/-- A possible key stays possible if it is not too far away. -/
theorem refresh_of_not_stale {k : SimpleKey} (h : isStale p k = false) :
    refresh p (some k) = .ok (some k) := by
  simp [refresh, h]

end Landing

/-! ## Indicators -/

section Indicators

variable {columns : List Nat} {reversed : List Token} {p : Position} {cs : List Char}

/-- The open columns and the tokens once a collection in a column is open. -/
def opened (columns : List Nat) (reversed : List Token) (column : Nat) (t : Token) :
    List Nat × List Token :=
  if columns.head?.any (column ≤ ·) then (columns, reversed) else (column :: columns, t :: reversed)

section Opened

variable {column : Nat} {t : Token}

theorem head?_opened (reversed : List Token) (t : Token)
    (h : ∀ m, columns.head? = some m → m ≤ column) :
    (opened columns reversed column t).1.head? = some column := by
  rw [opened]
  split
  · rename_i hany
    cases hhead : columns.head? with
    | none => rw [hhead] at hany; cases hany
    | some m =>
        rw [hhead] at hany
        have hle : column ≤ m := by simpa using hany
        rw [Nat.le_antisymm (h m hhead) hle]
  · rfl

theorem opened_of_head? (h : columns.head? = some column) :
    opened columns reversed column t = (columns, reversed) := by
  rw [opened, h]
  simp

theorem opened_of_lt (h : ∀ m, columns.head? = some m → m < column) :
    opened columns reversed column t = (column :: columns, t :: reversed) := by
  rw [opened, if_neg]
  cases hhead : columns.head? with
  | none => simp
  | some m => simpa using h m hhead

theorem head?_le {m n : Nat} (h : columns.head? = some m) (hle : m ≤ n) :
    ∀ k, columns.head? = some k → k ≤ n := by
  intro k hk
  obtain rfl : m = k := Option.some.inj (h.symm.trans hk)
  exact hle

/-- The lines of a collection with a column of its own, which ends behind them. -/
theorem landing_closed {ts : List Token} {rest : List Char} (hp : p.column < column) :
    landing (column :: columns) true (ts.reverse ++ t :: reversed) p rest =
      landing columns true ((t :: (ts ++ [.blockEnd])).reverse ++ reversed) p rest := by
  rw [landing_of_lt hp]
  simp

end Opened

theorem openBlock_inBlock (columns : List Nat) (keyAllowed : Bool) (reversed : List Token)
    (p : Position) (cs : List Char) (t : Token) :
    (inBlock columns keyAllowed reversed p cs).openBlock p.column none t =
      inBlock (opened columns reversed p.column t).1 keyAllowed
        (opened columns reversed p.column t).2 p cs := by
  cases h : columns.head?.any (p.column ≤ ·) <;> simp [openBlock, opened, inBlock, inFlow, emit, h]

theorem not_atMarker_dash (h : atGap cs = true) :
    (Cursor.mk p ('-' :: cs)).atMarker = false := by
  have hmarker : Yaml.atMarker ('-' :: cs) = false := by
    cases cs with
    | nil => rfl
    | cons c cs =>
        by_cases hc : c = '-'
        · subst hc
          simp [atGap, isSpaceOrBreak, isSpace, isBreak] at h
        · unfold Yaml.atMarker
          split <;> simp_all
  rw [Cursor.atMarker, hmarker, Bool.and_false]

/-- The dash in front of an item. -/
theorem tokenHere_dash (columns : List Nat) (reversed : List Token) (p : Position)
    (h : atGap cs = true) :
    tokenHere (inBlock columns true reversed p ('-' :: cs)) =
      .ok (inBlock (opened columns reversed p.column .blockSequenceStart).1 true
        (.blockEntry :: (opened columns reversed p.column .blockSequenceStart).2) (p.advance 1)
        cs) := by
  have hopen := openBlock_inBlock columns true reversed p ('-' :: cs) .blockSequenceStart
  have hcursor : (inBlock columns true reversed p ('-' :: cs)).cursor = ⟨p, '-' :: cs⟩ := rfl
  have hcolumn : (inBlock columns true reversed p ('-' :: cs)).column = p.column := rfl
  simp only [tokenHere, hcursor, not_atMarker_dash h, hcolumn, h]
  simp only [blockEntry, hcolumn, hopen]
  simp [dropKey, inBlock, inFlow, allowKey, indicator, moveTo, emit, Cursor.skip, bind, Except.bind]

/-- The question mark in front of a key that has no colon on its line. -/
theorem tokenHere_question (columns : List Nat) (reversed : List Token) (p : Position)
    (h : atGap cs = true) :
    tokenHere (inBlock columns true reversed p ('?' :: cs)) =
      .ok (inBlock (opened columns reversed p.column .blockMappingStart).1 true
        (.key :: (opened columns reversed p.column .blockMappingStart).2) (p.advance 1) cs) := by
  have hopen := openBlock_inBlock columns true reversed p ('?' :: cs) .blockMappingStart
  have hcursor : (inBlock columns true reversed p ('?' :: cs)).cursor = ⟨p, '?' :: cs⟩ := rfl
  have hcolumn : (inBlock columns true reversed p ('?' :: cs)).column = p.column := rfl
  have hmarker : (Cursor.mk p ('?' :: cs)).atMarker = false := by
    simp [Cursor.atMarker, Yaml.atMarker]
  simp only [tokenHere, hcursor, hmarker, hcolumn, h]
  simp only [explicitKey, hcolumn, hopen]
  simp [dropKey, inBlock, inFlow, allowKey, indicator, moveTo, emit, Cursor.skip, bind, Except.bind]

/-- The colon behind such a key, in the column of the mapping. -/
theorem tokenHere_colon (reversed : List Token) (h : atGap cs = true)
    (hopen : columns.head? = some p.column) :
    tokenHere (inBlock columns true reversed p (':' :: cs)) =
      .ok (inBlock columns true (.value :: reversed) (p.advance 1) cs) := by
  have hcursor : (inBlock columns true reversed p (':' :: cs)).cursor = ⟨p, ':' :: cs⟩ := rfl
  have hcolumn : (inBlock columns true reversed p (':' :: cs)).column = p.column := rfl
  have hmarker : (Cursor.mk p (':' :: cs)).atMarker = false := by
    simp [Cursor.atMarker, Yaml.atMarker]
  simp only [tokenHere, hcursor, hmarker, hcolumn, h]
  simp [mappingValue, inBlock, inFlow, allowKey, indicator, moveTo, emit, Cursor.skip, openBlock,
    hopen, column, Cursor.column]

/-- The colon behind a simple key: the key token comes in front of what was read since. -/
theorem tokenHere_keyColon {k : SimpleKey} {keyAllowed : Bool} {ts : List Token}
    (h : atGap cs = true) (hk : k.tokensBefore = reversed.length) :
    tokenHere (keyed columns (some k) keyAllowed (ts ++ reversed) p (':' :: cs)) =
      .ok (inBlock (opened columns reversed k.position.column .blockMappingStart).1 false
        (.value :: (ts ++
          .key :: (opened columns reversed k.position.column .blockMappingStart).2))
        (p.advance 1) cs) := by
  have hmarker : (Cursor.mk p (':' :: cs)).atMarker = false := by
    simp [Cursor.atMarker, Yaml.atMarker]
  have hlater : ts.length + reversed.length - reversed.length = ts.length := by omega
  have hbefore : ts.length + (reversed.length + 1) - reversed.length = ts.length + 1 := by omega
  have htake : ts.take (ts.length + 1) = ts := List.take_of_length_le (Nat.le_succ _)
  have hdrop : ts.drop (ts.length + 1) = [] := List.drop_eq_nil_of_le (Nat.le_succ _)
  simp only [tokenHere, keyed, inBlock, hmarker, column, Cursor.column, h]
  cases hcolumn : columns.head?.any (k.position.column ≤ ·) <;>
    simp [mappingValue, emitAt, inFlow, openBlock, opened, hcolumn, hk, hlater, hbefore, htake,
      hdrop, List.take_append, List.drop_append, allowKey, indicator, moveTo, emit, Cursor.skip,
      Nat.add_assoc]

end Indicators

end WorkItems.Yaml.Lexer
