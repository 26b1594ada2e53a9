import WorkItems.Proofs.Yaml.BlockScalars
/-!
# The lexer inside of flow collections

Inside of a flow collection there is a possible simple key for each collection that is open. Which
of them are given up on the way does not matter, as none of them has to be one: the lemmas therefore
have the form of rules. To get from a text to a state, get there from behind its first token with
any keys that may be left.
-/

namespace WorkItems.Yaml

open Lexer

/-- The state at `cs`, with the possible keys of the open flow collections and of the innermost. -/
def lexAt (columns : List Nat) (keys : List (Option SimpleKey)) (key : Option SimpleKey)
    (keyAllowed : Bool) (reversed : List Token) (p : Position) (cs : List Char) : Lexer where
  cursor := ⟨p, cs⟩
  columns
  simpleKey := key
  enclosing := keys
  keyAllowed
  reversed
  count := reversed.length
  ended := false

theorem lexAt_nil {columns : List Nat} {key : Option SimpleKey} {keyAllowed : Bool}
    {reversed : List Token} {p : Position} {cs : List Char} :
    lexAt columns [] key keyAllowed reversed p cs = keyed columns key keyAllowed reversed p cs :=
  rfl

/-- The two kinds of flow collections. -/
inductive FlowKind where
  | sequence
  | mapping

namespace FlowKind

def opening : FlowKind → Char
  | sequence => '['
  | mapping => '{'

def closing : FlowKind → Char
  | sequence => ']'
  | mapping => '}'

def start : FlowKind → Token
  | sequence => .flowSequenceStart
  | mapping => .flowMappingStart

def finish : FlowKind → Token
  | sequence => .flowSequenceEnd
  | mapping => .flowMappingEnd

end FlowKind

/-- To the right of the block collection around. -/
def Deeper (columns : List Nat) (p : Position) : Prop :=
  ∃ n, columns.head? = some n ∧ n < p.column

namespace Deeper

variable {columns : List Nat} {p : Position}

theorem advance (h : Deeper columns p) (n : Nat) : Deeper columns (p.advance n) := by
  obtain ⟨m, hm, hlt⟩ := h
  exact ⟨m, hm, by simp only [Position.advance]; omega⟩

theorem pos (h : Deeper columns p) : 0 < p.column := by
  obtain ⟨m, -, hlt⟩ := h
  omega

theorem indent_le (h : Deeper columns p) : (columns.head?.map (· + 1)).getD 0 ≤ p.column + 1 := by
  obtain ⟨m, hm, hlt⟩ := h
  rw [hm]
  simp
  omega

end Deeper

/-- The possible keys need not be keys, and the cursor is to the right of the block around. -/
structure Relaxed (columns : List Nat) (keys : List (Option SimpleKey)) (key : Option SimpleKey)
    (p : Position) : Prop where
  enclosing : ∀ k ∈ keys, Optional p.line k
  innermost : Optional p.line key
  deeper : Deeper columns p

section Rules

variable {columns : List Nat} {keys : List (Option SimpleKey)} {key : Option SimpleKey}
  {keyAllowed : Bool} {reversed : List Token} {p : Position} {cs : List Char} {u : Lexer}

theorem Relaxed.advance (h : Relaxed columns keys key p) (n : Nat) :
    Relaxed columns keys key (p.advance n) := ⟨h.enclosing, h.innermost, h.deeper.advance n⟩

/-! ## The gap -/

theorem mapM_refresh (h : ∀ k ∈ keys, Optional p.line k) :
    ∃ keys', keys.mapM (refresh p) = .ok keys' ∧ keys'.length = keys.length ∧
      ∀ k ∈ keys', Optional p.line k := by
  induction keys with
  | nil => exact ⟨[], rfl, rfl, by simp⟩
  | cons k ks ih =>
      obtain ⟨k', hk', hopt⟩ := refresh_optional (h k (List.mem_cons_self ..))
      obtain ⟨ks', hks', hlength, hopts⟩ := ih fun l hl => h l (List.mem_cons_of_mem _ hl)
      refine ⟨k' :: ks', ?_, by simp [hlength], by simpa using ⟨hopt, hopts⟩⟩
      rw [List.mapM_cons, hk', hks']
      rfl

theorem isEmpty_eq_false {keys keys' : List (Option SimpleKey)} (hne : keys ≠ [])
    (hlength : keys'.length = keys.length) : keys'.isEmpty = false := by
  cases keys' with
  | nil => exact absurd (List.length_eq_zero_iff.1 hlength.symm) hne
  | cons k ks => rfl

/-- The spaces behind a token. -/
theorem arrives_spaces (n : Nat) (hne : keys ≠ []) (hopens : OpensInLine cs)
    (h : Relaxed columns keys key p)
    (hnext : ∀ keys' key', keys'.length = keys.length →
      Relaxed columns keys' key' (p.advance n) →
      Reaches (lexAt columns keys' key' keyAllowed reversed (p.advance n) cs) u) :
    Arrives (lexAt columns keys key keyAllowed reversed p (List.replicate n ' ' ++ cs)) u := by
  have h' := h.advance n
  obtain ⟨key', hkey', hopt⟩ := refresh_optional h'.innermost
  obtain ⟨keys', hkeys', hlength, hopts⟩ := mapM_refresh h'.enclosing
  have hflow : keys.isEmpty = false := isEmpty_eq_false hne rfl
  have hflow' : keys'.isEmpty = false := isEmpty_eq_false hne hlength
  have hgap := skipGap_eq_self hopens fun hp => absurd hp (Nat.ne_of_gt h'.deeper.pos)
  refine ⟨lexAt columns keys' key' keyAllowed reversed (p.advance n) cs, ?_,
    hnext keys' key' hlength ⟨hopts, hopt, h'.deeper⟩⟩
  simp [settle, toNextToken, lexAt, inFlow, hflow, hflow', skipGap_spaces, hgap, refreshKeys, hkey',
    hkeys', bind, Except.bind, closeBlocks]

/-- No gap at all, and a possible key that is not too far away. -/
theorem arrives_possible {k : SimpleKey} (hne : keys ≠ []) (hopens : OpensInLine cs)
    (h : Relaxed columns keys (some k) p) (hstale : isStale p k = false)
    (hnext : ∀ keys', keys'.length = keys.length → Relaxed columns keys' (some k) p →
      Reaches (lexAt columns keys' (some k) keyAllowed reversed p cs) u) :
    Arrives (lexAt columns keys (some k) keyAllowed reversed p cs) u := by
  obtain ⟨keys', hkeys', hlength, hopts⟩ := mapM_refresh h.enclosing
  have hflow : keys.isEmpty = false := isEmpty_eq_false hne rfl
  have hflow' : keys'.isEmpty = false := isEmpty_eq_false hne hlength
  have hgap := skipGap_eq_self hopens fun hp => absurd hp (Nat.ne_of_gt h.deeper.pos)
  refine ⟨lexAt columns keys' (some k) keyAllowed reversed p cs, ?_,
    hnext keys' hlength ⟨hopts, h.innermost, h.deeper⟩⟩
  simp [settle, toNextToken, lexAt, inFlow, hflow, hflow', hgap, refreshKeys, refresh, hstale,
    hkeys', bind, Except.bind, closeBlocks]

/-! ## Tokens -/

theorem atMarker_of_deeper (h : Deeper columns p) : Cursor.atMarker ⟨p, cs⟩ = false := by
  have hpos := h.pos
  simp only [Cursor.atMarker, Cursor.column, Bool.and_eq_false_iff, beq_eq_false_iff_ne]
  exact .inl (by omega)

theorem dropKey_lexAt (hkey : Optional p.line key) :
    dropKey (lexAt columns keys key keyAllowed reversed p cs) =
      .ok (lexAt columns keys none keyAllowed reversed p cs) := by
  cases key with
  | none => rfl
  | some k => simp [dropKey, lexAt, (hkey k rfl).1]

/-- The possible key in front of a token. -/
def keyBefore (keyAllowed : Bool) (key : Option SimpleKey) (reversed : List Token) (p : Position) :
    Option SimpleKey :=
  if keyAllowed then some ⟨false, reversed.length, p⟩ else key

theorem Relaxed.keyBefore (h : Relaxed columns keys key p) (keyAllowed : Bool)
    (reversed : List Token) :
    Relaxed columns keys (keyBefore keyAllowed key reversed p) p := by
  refine ⟨h.enclosing, ?_, h.deeper⟩
  cases keyAllowed with
  | false => exact h.innermost
  | true =>
      intro k hk
      obtain rfl := Option.some.inj hk
      exact ⟨rfl, Nat.le_refl _⟩

theorem saveKey_lexAt (h : Relaxed columns keys key p) :
    saveKey (lexAt columns keys key keyAllowed reversed p cs) =
      .ok (lexAt columns keys (keyBefore keyAllowed key reversed p) keyAllowed reversed p cs) := by
  cases keyAllowed with
  | false => rfl
  | true =>
      obtain ⟨n, hn, hlt⟩ := h.deeper
      have hne : ¬n = p.column := by omega
      have hrequired : (columns.head? == some p.column) = false := by
        rw [hn]
        simp [hne]
      simp only [saveKey, dropKey_lexAt h.innermost, bind, Except.bind]
      simp [lexAt, keyBefore, column, Cursor.column, hrequired]

theorem openFlow_lexAt (c : Char) (t : Token) (h : Relaxed columns keys key p) :
    openFlow (lexAt columns keys key keyAllowed reversed p (c :: cs)) t =
      .ok (lexAt columns (keyBefore keyAllowed key reversed p :: keys) none true (t :: reversed)
        (p.advance 1) cs) := by
  rw [openFlow, saveKey_lexAt h]
  rfl

theorem closeFlow_lexAt (c : Char) (t : Token) (allowed : Bool) {k : Option SimpleKey}
    (h : Relaxed columns (k :: keys) key p) :
    closeFlow (lexAt columns (k :: keys) key allowed reversed p (c :: cs)) t =
      .ok (lexAt columns keys k false (t :: reversed) (p.advance 1) cs) := by
  rw [closeFlow, dropKey_lexAt h.innermost]
  rfl

theorem tokenHere_opening (kind : FlowKind) (h : Relaxed columns keys key p) :
    tokenHere (lexAt columns keys key keyAllowed reversed p (kind.opening :: cs)) =
      .ok (lexAt columns (keyBefore keyAllowed key reversed p :: keys) none true
        (kind.start :: reversed) (p.advance 1) cs) := by
  rw [← openFlow_lexAt kind.opening _ h]
  cases kind <;> simp [tokenHere, lexAt, atMarker_of_deeper h.deeper, FlowKind.opening,
    FlowKind.start]

theorem tokenHere_closing (kind : FlowKind) {k : Option SimpleKey}
    (h : Relaxed columns (k :: keys) key p) :
    tokenHere (lexAt columns (k :: keys) key keyAllowed reversed p (kind.closing :: cs)) =
      .ok (lexAt columns keys k false (kind.finish :: reversed) (p.advance 1) cs) := by
  rw [← closeFlow_lexAt kind.closing _ keyAllowed h]
  cases kind <;> simp [tokenHere, lexAt, atMarker_of_deeper h.deeper, FlowKind.closing,
    FlowKind.finish]

theorem tokenHere_comma (h : Relaxed columns keys key p) :
    tokenHere (lexAt columns keys key keyAllowed reversed p (',' :: cs)) =
      .ok (lexAt columns keys none true (.flowEntry :: reversed) (p.advance 1) cs) := by
  have hentry : flowEntry (lexAt columns keys key keyAllowed reversed p (',' :: cs)) =
      .ok (lexAt columns keys none true (.flowEntry :: reversed) (p.advance 1) cs) := by
    rw [flowEntry, dropKey_lexAt h.innermost]
    rfl
  rw [← hentry]
  simp [tokenHere, lexAt, atMarker_of_deeper h.deeper]

/-- The colon behind a simple key. -/
theorem tokenHere_flowColon {k : SimpleKey} {t : Token} (hne : keys ≠ [])
    (h : Relaxed columns keys (some k) p) (hk : k.tokensBefore = reversed.length) :
    tokenHere (lexAt columns keys (some k) keyAllowed (t :: reversed) p (':' :: cs)) =
      .ok (lexAt columns keys none false (.value :: t :: .key :: reversed) (p.advance 1) cs) := by
  have hflow : keys.isEmpty = false := by simpa using hne
  have hone : reversed.length + 1 - reversed.length = 1 := by omega
  simp [tokenHere, lexAt, atMarker_of_deeper h.deeper, inFlow, hflow, mappingValue, emitAt, hk,
    hone, openBlock, allowKey, indicator, moveTo, emit, Cursor.skip]

end Rules

end WorkItems.Yaml
