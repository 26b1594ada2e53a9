import WorkItems.Proofs.Yaml.FlowStates
/-!
# Texts inside of flow collections

What the lexer makes of the elements of a flow collection and of the collection as a whole. A text
is read as tokens if the lexer gets through it from any state, whatever follows: behind the text it
is in a state with these tokens added and with some possible keys (`Leads`).
-/

namespace WorkItems.Yaml

open Lexer

/-- From behind a token, with as many open flow collections and whichever possible keys. -/
def Leads (columns : List Nat) (depth : Nat) (reversed : List Token) (p : Position)
    (cs : List Char) (u : Lexer) : Prop :=
  ∀ keys key, keys.length = depth → Relaxed columns keys key p →
    Arrives (lexAt columns keys key false reversed p cs) u

/--
The lexer takes the text for these tokens inside of a flow collection, in front of an indicator
of it.
-/
structure FlowReads (keyAllowed : Bool) (text : List Char) (ts : List Token) : Prop where
  starts : StartsInLine text
  reaches : ∀ {columns keys key reversed p c tail u}, keys ≠ [] →
    Relaxed columns keys key p → isFlowIndicator c = true →
    Leads columns keys.length (ts.reverse ++ reversed) (p.advance text.length) (c :: tail) u →
    Reaches (lexAt columns keys key keyAllowed reversed p (text ++ c :: tail)) u

/-- The lexer takes the text for these tokens, whatever is around it and behind it. -/
structure FlowCollection (text : List Char) (ts : List Token) : Prop where
  starts : StartsToken text
  reaches : ∀ {columns keys key keyAllowed reversed p tail u}, Relaxed columns keys key p →
    Leads columns keys.length (ts.reverse ++ reversed) (p.advance text.length) tail u →
    Reaches (lexAt columns keys key keyAllowed reversed p (text ++ tail)) u

theorem FlowCollection.reads {text : List Char} {ts : List Token} (h : FlowCollection text ts)
    (keyAllowed : Bool) : FlowReads keyAllowed text ts :=
  ⟨h.starts.inLine, fun _ hrelaxed _ hleads => h.reaches hrelaxed hleads⟩

/-! ## Scalars -/

/--
The lexer takes the text for the scalar `t` inside of a flow collection, in front of an indicator or
a colon.
-/
structure FlowScalar (text : List Char) (t : Token) : Prop where
  starts : StartsInLine text
  token : ∀ {columns keys key} keyAllowed reversed {p} c tail, keys ≠ [] →
    Relaxed columns keys key p → (isFlowIndicator c = true ∨ c = ':' ∧ atGap tail = true) →
    tokenHere (lexAt columns keys key keyAllowed reversed p (text ++ c :: tail)) =
      .ok (lexAt columns keys (keyBefore keyAllowed key reversed p) false (t :: reversed)
        (p.advance text.length) (c :: tail))

section Scalars

variable {columns : List Nat} {keys : List (Option SimpleKey)} {key : Option SimpleKey}
  {keyAllowed : Bool} {reversed : List Token} {p q : Position} {cs rest : List Char}

theorem keyLike_lexAt {read : Cursor → Except Error (Token × Cursor)} {t : Token}
    (h : Relaxed columns keys key p) (hread : read ⟨p, cs⟩ = .ok (t, ⟨q, rest⟩)) :
    keyLike (lexAt columns keys key keyAllowed reversed p cs) read =
      .ok (lexAt columns keys (keyBefore keyAllowed key reversed p) false (t :: reversed) q
        rest) := by
  rw [keyLike, saveKey_lexAt h]
  simp [lexAt, bind, Except.bind, hread, allowKey, moveTo, emit]

theorem plainToken_lexAt {text : String} (hne : keys ≠ []) (h : Relaxed columns keys key p)
    (hread : plain true ((columns.head?.map (· + 1)).getD 0) .empty p cs =
      .ok (text, false, ⟨q, rest⟩)) :
    plainToken (lexAt columns keys key keyAllowed reversed p cs) =
      .ok (lexAt columns keys (keyBefore keyAllowed key reversed p) false
        (.scalar text .plain :: reversed) q rest) := by
  have hflow : keys.isEmpty = false := by simpa using hne
  rw [plainToken, saveKey_lexAt h]
  simp [lexAt, inFlow, hflow, bind, Except.bind, hread, allowKey, moveTo, emit]

theorem IsPlainScalar.flowScalar {text : List Char} (h : IsPlainScalar true text) :
    FlowScalar text (.scalar (String.ofList text) .plain) := by
  refine ⟨h.starts, ?_⟩
  obtain ⟨c, cs, rfl, hstart⟩ := h.start
  intro columns keys key keyAllowed reversed p d tail hne hrelaxed hd
  have hflow : (lexAt columns keys key keyAllowed reversed p (c :: (cs ++ d :: tail))).inFlow =
      true := by simpa [lexAt, inFlow] using hne
  have htoken := tokenHere_plain
    (s := lexAt columns keys key keyAllowed reversed p (c :: (cs ++ d :: tail))) rfl
    (atMarker_of_deeper hrelaxed.deeper) (hflow ▸ hstart.append (d :: tail))
  refine htoken.trans (plainToken_lexAt hne hrelaxed ?_)
  have hindent := hrelaxed.deeper.indent_le
  rcases hd with hd | ⟨rfl, hgap⟩
  · exact plain_flowIndicator h.toIsPlain h.last hindent hd
  · exact plain_colon h.toIsPlain h.last hindent hgap

theorem flowScalar_doubleQuoted {write : Char → List Char} (h : ∀ c ∈ cs, Escapes (write c) c) :
    FlowScalar (doubleQuotes write cs) (.scalar (String.ofList cs) .doubleQuoted) := by
  refine ⟨⟨'"', _, rfl, by decide, by decide⟩, ?_⟩
  intro columns keys key keyAllowed reversed p d tail _ hrelaxed _
  have hread := doubleQuoted_flatMap (d :: tail) h .empty (p.advance 1) .empty
    (Nat.succ_pos _)
  rw [doubleQuotes, List.append_assoc, List.cons_append, List.singleton_append,
    tokenHere_quote rfl]
  refine keyLike_lexAt hrelaxed ?_
  simp only [doubleQuotedToken, Cursor.skip, List.drop_succ_cons, List.drop_zero, bind, Except.bind,
    hread]
  simp [Folded.empty, Folded.close, Position.advance_advance, Nat.add_comm]

end Scalars

theorem FlowScalar.reads {text : List Char} {t : Token} (h : FlowScalar text t)
    (keyAllowed : Bool) : FlowReads keyAllowed text [t] := by
  refine ⟨h.starts, ?_⟩
  intro columns keys key reversed p c tail u hne hrelaxed hc hleads
  have hbehind := (hrelaxed.keyBefore keyAllowed reversed).advance
    text.length
  refine (hleads keys _ rfl hbehind).step (h.token _ _ _ _ hne hrelaxed (.inl hc)) rfl ?_
  have hpos := h.starts.length_pos
  simp only [lexAt, List.length_append, List.length_cons]
  omega

/-! ## Entries -/

/-- An entry of a flow mapping: a key that is not too long, and its value. -/
theorem FlowScalar.entry {text value : List Char} {t : Token} {ts : List Token}
    (h : FlowScalar text t) (hlength : text.length ≤ 1024) (hvalue : FlowReads false value ts) :
    FlowReads true (text ++ ':' :: ' ' :: value) (.key :: t :: .value :: ts) := by
  refine ⟨?_, ?_⟩
  · exact h.starts.append _
  intro columns keys key reversed p c tail u hne hrelaxed hc hleads
  have hpos := h.starts.length_pos
  have hkey :=
    h.token true reversed ':' (' ' :: (value ++ c :: tail)) hne hrelaxed (.inr ⟨rfl, rfl⟩)
  have hstale : isStale (p.advance text.length) ⟨false, reversed.length, p⟩ = false := by
    simp [isStale, Position.advance, hlength]
  have hbehind := (hrelaxed.keyBefore true reversed).advance
    text.length
  have hend : (((p.advance text.length).advance 1).advance 1).advance value.length =
      p.advance (text ++ ':' :: ' ' :: value).length := by
    simp only [Position.advance_advance, List.length_append, List.length_cons]
    congr 1
    omega
  rw [List.append_assoc, List.cons_append, List.cons_append]
  refine Arrives.step (arrives_possible hne (opens_colon _).1 hbehind hstale
    fun keys' hlength' hrelaxed' => ?_) hkey rfl ?_
  · have hne' : keys' ≠ [] := by
      rintro rfl
      exact hne (List.length_eq_zero_iff.1 hlength'.symm)
    refine Arrives.step ?_ (tokenHere_flowColon hne' hrelaxed' rfl) rfl (Nat.lt_succ_self _)
    refine arrives_spaces 1 hne' (hvalue.starts.opens _)
      ⟨(hrelaxed'.advance 1).enclosing, optional_none, (hrelaxed'.advance 1).deeper⟩
      fun keys'' key'' hlength'' hrelaxed'' => ?_
    refine hvalue.reaches (fun he => hne' ?_) hrelaxed'' hc ?_
    · rw [he] at hlength''
      exact List.length_eq_zero_iff.1 hlength''.symm
    · rw [hlength'', hlength', hend]
      simpa using hleads
  · simp only [lexAt, List.length_append, List.length_cons]
    omega

/-! ## Collections -/

/-- What is left of a flow collection behind an element. -/
inductive FlowRest : List Char → List Token → Prop where
  | nil : FlowRest [] []
  | cons {text rest : List Char} {ts us : List Token} : FlowReads true text ts → FlowRest rest us →
      FlowRest (',' :: ' ' :: (text ++ rest)) (.flowEntry :: (ts ++ us))

/-- Behind an element comes a comma or what follows the elements. -/
theorem FlowRest.head {text : List Char} {ts : List Token} (h : FlowRest text ts) {c : Char}
    (hc : isFlowIndicator c = true) (tail : List Char) :
    ∃ d tail', text ++ c :: tail = d :: tail' ∧ isFlowIndicator d = true := by
  cases h with
  | nil => exact ⟨c, tail, rfl, hc⟩
  | cons _ _ => exact ⟨',', _, rfl, rfl⟩

theorem FlowRest.leads {text : List Char} {ts : List Token} (h : FlowRest text ts)
    {columns : List Nat} {depth : Nat} {c : Char} {tail : List Char} {u : Lexer}
    (hdepth : depth ≠ 0) (hc : isFlowIndicator c = true) :
    ∀ {reversed : List Token} {p : Position},
      Leads columns depth (ts.reverse ++ reversed) (p.advance text.length) (c :: tail) u →
      Leads columns depth reversed p (text ++ c :: tail) u := by
  induction h with
  | nil => exact fun hleads => hleads
  | @cons text rest ts us hreads hrest ih =>
      intro reversed p hleads keys key hlength hrelaxed
      have hne : ∀ keys' : List (Option SimpleKey), keys'.length = depth → keys' ≠ [] := by
        rintro keys' hlength' rfl
        exact hdepth hlength'.symm
      obtain ⟨d, tail', heq, hd⟩ := hrest.head hc tail
      have htext : ',' :: ' ' :: (text ++ rest) ++ c :: tail =
          ',' :: ' ' :: (text ++ d :: tail') := by
        rw [← heq]
        simp
      have hend : (((p.advance 1).advance 1).advance text.length).advance rest.length =
          p.advance (',' :: ' ' :: (text ++ rest)).length := by
        simp only [Position.advance_advance, List.length_append, List.length_cons]
        congr 1
        omega
      have hnext : Leads columns depth (ts.reverse ++ .flowEntry :: reversed)
          (((p.advance 1).advance 1).advance text.length) (d :: tail') u := by
        rw [← heq]
        refine ih ?_
        rw [hend]
        simpa using hleads
      rw [htext]
      have hopens : Opens (',' :: ' ' :: (text ++ d :: tail')) :=
        opens_cons (by decide) (by decide) (by decide) _
      refine arrives_spaces 0 (hne keys hlength) hopens.1 hrelaxed
        fun keys' key' hlength' hrelaxed' => ?_
      have hdepth' := hlength'.trans hlength
      refine Arrives.step ?_ (tokenHere_comma hrelaxed') rfl (Nat.lt_succ_self _)
      refine arrives_spaces 1 (hne keys' hdepth') (hreads.starts.opens _)
        ⟨(hrelaxed'.advance 1).enclosing, optional_none, (hrelaxed'.advance 1).deeper⟩
        fun keys'' key'' hlength'' hrelaxed'' => ?_
      have hdepth'' := hlength''.trans hdepth'
      refine hreads.reaches (hne keys'' hdepth'') hrelaxed'' hd ?_
      rw [hdepth'']
      exact hnext

theorem opens_closing (kind : FlowKind) (tail : List Char) : Opens (kind.closing :: tail) := by
  cases kind <;> exact opens_cons (by decide) (by decide) (by decide) tail

/-- The bracket behind the elements. -/
theorem arrives_closing {kind : FlowKind} {columns : List Nat} {depth : Nat}
    {reversed : List Token} {p : Position} {tail : List Char} {u : Lexer} {keyAllowed : Bool}
    (h : Leads columns depth (kind.finish :: reversed) (p.advance 1) tail u)
    (keys : List (Option SimpleKey)) (key : Option SimpleKey) (hlength : keys.length = depth + 1)
    (hrelaxed : Relaxed columns keys key p) :
    Arrives (lexAt columns keys key keyAllowed reversed p (kind.closing :: tail)) u := by
  have hne : keys ≠ [] := by
    rintro rfl
    cases hlength
  refine arrives_spaces 0 hne (opens_closing kind tail).1 hrelaxed
    fun keys' key' hlength' hrelaxed' => ?_
  match keys', hlength', hrelaxed' with
  | [], hlength', _ => exact absurd (hlength'.trans hlength) (by simp)
  | k :: ks, hlength', hrelaxed' =>
      have hks : ks.length = depth := Nat.succ.inj (hlength'.trans hlength)
      have hbehind : Relaxed columns ks k ((p.advance 0).advance 1) :=
        (Relaxed.mk (fun l hl => hrelaxed'.enclosing l (List.mem_cons_of_mem _ hl))
          (hrelaxed'.enclosing k (List.mem_cons_self ..)) hrelaxed'.deeper).advance 1
      exact Arrives.step (h ks k hks hbehind) (tokenHere_closing kind hrelaxed') rfl
        (Nat.lt_succ_self _)

/-- The bracket in front of the elements. -/
theorem reaches_opening {kind : FlowKind} {columns : List Nat} {keys : List (Option SimpleKey)}
    {key : Option SimpleKey} {keyAllowed : Bool} {reversed : List Token} {p : Position}
    {cs : List Char} {u : Lexer} (hrelaxed : Relaxed columns keys key p)
    (h : ∀ keys' key', keys'.length = keys.length + 1 →
      Relaxed columns keys' key' (p.advance 1) →
      Arrives (lexAt columns keys' key' true (kind.start :: reversed) (p.advance 1) cs) u) :
    Reaches (lexAt columns keys key keyAllowed reversed p (kind.opening :: cs)) u := by
  have hbehind := (hrelaxed.keyBefore keyAllowed reversed).advance 1
  have hkeys : ∀ k ∈ keyBefore keyAllowed key reversed p :: keys,
      Optional (p.advance 1).line k := by
    intro k hk
    rcases List.mem_cons.1 hk with rfl | hk
    · exact hbehind.innermost
    · exact hbehind.enclosing k hk
  exact (h _ none rfl ⟨hkeys, optional_none, hbehind.deeper⟩).step
    (tokenHere_opening kind hrelaxed) rfl (Nat.lt_succ_self _)

theorem startsToken_opening (kind : FlowKind) (tail : List Char) :
    StartsToken (kind.opening :: tail) := by
  cases kind <;> exact ⟨_, _, rfl, by decide, by decide, by decide⟩

theorem flowCollection_nil (kind : FlowKind) :
    FlowCollection [kind.opening, kind.closing] [kind.start, kind.finish] :=
  ⟨startsToken_opening .., fun hrelaxed hleads => reaches_opening hrelaxed <|
    arrives_closing hleads⟩

theorem flowCollection_cons (kind : FlowKind) {text rest : List Char} {ts us : List Token}
    (h : FlowReads true text ts) (hs : FlowRest rest us) :
    FlowCollection (kind.opening :: (text ++ (rest ++ [kind.closing])))
      (kind.start :: (ts ++ (us ++ [kind.finish]))) := by
  refine ⟨startsToken_opening .., ?_⟩
  intro columns keys key keyAllowed reversed p tail u hrelaxed hleads
  have hclosing : isFlowIndicator kind.closing = true := by cases kind <;> rfl
  obtain ⟨d, tail', heq, hd⟩ := hs.head hclosing tail
  have htext : kind.opening :: (text ++ (rest ++ [kind.closing])) ++ tail =
      kind.opening :: (text ++ d :: tail') := by
    rw [← heq]
    simp
  have hend : (((p.advance 1).advance text.length).advance rest.length).advance 1 =
      p.advance (kind.opening :: (text ++ (rest ++ [kind.closing]))).length := by
    simp only [Position.advance_advance, List.length_append, List.length_cons, List.length_nil]
    congr 1
    omega
  have hbehind : Leads columns (keys.length + 1) (ts.reverse ++ kind.start :: reversed)
      ((p.advance 1).advance text.length) (d :: tail') u := by
    rw [← heq]
    refine hs.leads (Nat.succ_ne_zero _) hclosing (arrives_closing ?_)
    rw [hend]
    simpa using hleads
  rw [htext]
  refine reaches_opening hrelaxed fun keys' key' hlength' hrelaxed' => ?_
  have hne : ∀ ks : List (Option SimpleKey), ks.length = keys.length + 1 → ks ≠ [] := by
    rintro ks hks rfl
    cases hks
  refine arrives_spaces 0 (hne keys' hlength') (h.starts.opens _) hrelaxed'
    fun keys'' key'' hlength'' hrelaxed'' => ?_
  have hdepth := hlength''.trans hlength'
  refine h.reaches (hne keys'' hdepth) hrelaxed'' hd ?_
  rw [hdepth]
  exact hbehind

/-! ## A collection that ends a line -/

theorem FlowCollection.endsLine {text : List Char} {ts : List Token} (h : FlowCollection text ts)
    (parent : Nat) : EndsLine parent (text ++ ['\n']) ts := by
  refine ⟨h.starts.inLine.append _, ?_⟩
  intro columns key keyAllowed reversed p n rest hkey hcolumns hp _ hopens
  refine ⟨((p.advance text.length).newline 1).advance n, by simp [Position.advance,
    Position.newline], ?_⟩
  have hrelaxed : Relaxed columns [] key p := ⟨by simp, hkey, parent, hcolumns, hp⟩
  rw [List.append_assoc, List.singleton_append, ← lexAt_nil]
  refine h.reaches hrelaxed fun keys key hlength hrelaxed' => ?_
  obtain rfl := List.length_eq_zero_iff.1 hlength
  exact ⟨_, settle_keyed _ (skipGap_nextLine hopens ..)
    (refresh_nextLine hrelaxed'.innermost (Nat.lt_succ_self _)), .refl _⟩

/--
An empty collection in front of a colon. The key that is possible there is put by inside of it.
-/
theorem isKey_emptyCollection (kind : FlowKind) :
    IsKey [kind.opening, kind.closing] [kind.start, kind.finish] := by
  intro columns key keyAllowed reversed p k tail hyields hkey hstale hcolumns _
  have hopening : tokenHere (keyed columns key keyAllowed reversed p
      (kind.opening :: kind.closing :: ':' :: tail)) =
        .ok (lexAt columns [some k] none true (kind.start :: reversed) (p.advance 1)
          (kind.closing :: ':' :: tail)) := by
    have hopen : openFlow (keyed columns key keyAllowed reversed p
        (kind.opening :: kind.closing :: ':' :: tail)) kind.start =
          .ok (lexAt columns [some k] none true (kind.start :: reversed) (p.advance 1)
            (kind.closing :: ':' :: tail)) := by
      rw [openFlow, saveKey_keyed hyields, hkey]
      rfl
    rw [← hopen]
    cases kind <;> simp [tokenHere, keyed, inBlock, Cursor.atMarker, Yaml.atMarker,
      FlowKind.opening, FlowKind.start]
  have hclosing : tokenHere (lexAt columns [some k] none true (kind.start :: reversed)
      (p.advance 1) (kind.closing :: ':' :: tail)) =
        .ok (keyed columns (some k) false (kind.finish :: kind.start :: reversed) (p.advance 2)
          (':' :: tail)) := by
    have hclose : closeFlow (lexAt columns [some k] none true (kind.start :: reversed)
        (p.advance 1) (kind.closing :: ':' :: tail)) kind.finish =
          .ok (keyed columns (some k) false (kind.finish :: kind.start :: reversed) (p.advance 2)
            (':' :: tail)) := rfl
    rw [← hclose]
    cases kind <;> simp [tokenHere, lexAt, Cursor.atMarker, Yaml.atMarker, FlowKind.closing,
      FlowKind.finish]
  have hnear := isStale_advance hstale (Nat.le_succ 1)
  have hinside : settle (lexAt columns [some k] none true (kind.start :: reversed) (p.advance 1)
      (kind.closing :: ':' :: tail)) =
        .ok (lexAt columns [some k] none true (kind.start :: reversed) (p.advance 1)
          (kind.closing :: ':' :: tail)) := by
    simp [settle, toNextToken, lexAt, inFlow, skipGap_of_opens (opens_closing kind _), refreshKeys,
      refresh, hnear, bind, Except.bind, closeBlocks]
    rfl
  have hbehind := @settle_onLine columns false (kind.finish :: kind.start :: reversed) _ _ _ _ _ _ _
    (skipGap_of_opens (opens_colon tail) false false (p.advance 2)) (refresh_of_not_stale hstale)
    fun n hn => Nat.le_trans (hcolumns n hn) (Nat.le_add_right _ _)
  exact Arrives.step ⟨_, hinside, Arrives.step ⟨_, hbehind, .refl _⟩ hclosing rfl
    (Nat.lt_succ_self _)⟩ hopening rfl (Nat.lt_succ_self _)

end WorkItems.Yaml
