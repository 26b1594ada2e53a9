import WorkItems.Proofs.Except
import WorkItems.Proofs.Yaml.Grammar
import WorkItems.Yaml.Data
/-!
# Nodes and the data they stand for

`Says` tells what a node without aliases is read as, whatever the document around it is.
-/

namespace WorkItems.Yaml

/-! ## From tokens to a document -/

/-- Without directives or a marker in front the first document is the first node. -/
theorem firstDocument_of_head {t : Token} {ts : List Token}
    (h : t.startsNode = true ∨ t = .documentEnd) :
    firstDocument (t :: ts) =
      (node defaultHandles (4 * (t :: ts).length + 8) .item ⟨t :: ts, []⟩).map
        fun (root, r) => (root, r.tokens) := by
  have hdirectives : directives false [] (t :: ts) = .ok (defaultHandles, t :: ts) := by
    rcases h with h | rfl
    · cases t <;> first | rfl | simp [Token.startsNode, Token.startsContent] at h
    · rfl
  have hexplicit : ((t :: ts).head? == some .documentStart) = false := by
    rcases h with h | rfl
    · cases t <;> first | rfl | simp [Token.startsNode, Token.startsContent] at h
    · rfl
  simp only [firstDocument, hdirectives, bind, Except.bind, hexplicit]
  simp only [bne_self_eq_false, Bool.false_and, Bool.false_eq_true, if_false]
  cases node defaultHandles (4 * (t :: ts).length + 8) .item ⟨t :: ts, []⟩ <;> rfl

theorem ne_streamEnd {t : Token} {ts : List Token} (h : t ≠ .streamEnd) :
    (t :: ts == [.streamEnd]) = false := by
  rw [beq_eq_false_iff_ne]
  rintro heq
  exact h (List.cons.inj heq).1

/-- Tokens up to the end of the stream are a document. -/
theorem documentOfText_eq {text : String} {ts : List Token} {n : Node} (h : Parses .item ts n)
    (htokens : tokens text.toList = .ok (ts ++ [.streamEnd])) :
    Document.ofText text = .ok ⟨some n, n.anchored, n.eventCount⟩ := by
  obtain ⟨t, ts', rfl, hfirst⟩ := h.first
  have hcontent : t.startsNode = true := hfirst.resolve_right (by simp [Place.item])
  have hnode := h.node (4 * (t :: ts' ++ [Token.streamEnd]).length + 8) [.streamEnd]
    (by simp only [List.length_append, List.length_cons]; omega) (by simp)
  have hne : (t :: ts' ++ [.streamEnd] == [.streamEnd]) = false := ne_streamEnd (by
    rintro rfl
    exact absurd hcontent (by decide))
  have hfirst : firstDocument (t :: ts' ++ [.streamEnd]) = .ok (n, [.streamEnd]) := by
    rw [List.cons_append, firstDocument_of_head (.inl hcontent), ← List.cons_append, hnode]
    rfl
  simp only [Document.ofText, htokens, bind, Except.bind, hne, hfirst]
  rfl

/-- The data of a document with a root. -/
theorem dataOfText_of_root {s : String} {d : Document} {root : Node}
    (h : Document.ofText s = .ok d) (hroot : d.root = some root) :
    Data.ofText s = (root.data nestingLimit).run d := by
  simp only [Data.ofText, h, bind, Except.bind, hroot]

/-- A document that starts with a scalar is that scalar. -/
theorem root_of_scalar {s text : String} {style : Style} {ts : List Token} {d : Document}
    (htokens : tokens s.toList = .ok (.scalar text style :: ts))
    (h : Document.ofText s = .ok d) : d.root = some (.scalar .none style text) := by
  have hne : (Token.scalar text style :: ts == [Token.streamEnd]) = false :=
    ne_streamEnd (by simp)
  have hnode := (parses_scalar .item text style).node
    (4 * (Token.scalar text style :: ts).length + 8) ts
    (by simp only [List.length_cons, List.length_nil]; omega) (by simp [Place.item])
  have hfirst : firstDocument (.scalar text style :: ts) = .ok (.scalar .none style text, ts) := by
    rw [List.singleton_append] at hnode
    rw [firstDocument_of_head (.inl rfl), hnode]
    rfl
  simp only [Document.ofText, htokens, bind, Except.bind, hne, hfirst, Bool.false_eq_true,
    if_false] at h
  split at h
  · cases h
    rfl
  · cases h

/-- Nothing but documents may come behind the end of one. -/
theorem documentOfText_documentEnd {s : String} {ts : List Token}
    (htokens : tokens s.toList = .ok (.documentEnd :: ts)) :
    ∃ e, Document.ofText s = .error e := by
  have hne : (Token.documentEnd :: ts == [Token.streamEnd]) = false := ne_streamEnd (by simp)
  have hfirst : firstDocument (.documentEnd :: ts) = .error .unexpectedToken := by
    rw [firstDocument_of_head (.inr rfl), Nat.add_succ, node]
    rfl
  refine ⟨.unexpectedToken, ?_⟩
  simp only [Document.ofText, htokens, bind, Except.bind, hne, hfirst]
  rfl

/-! ## What nodes are made of -/

/-- The text of a scalar, or the alias, is one of the tokens, unless nothing is written at all. -/
def Node.IsFrom (ts : List Token) : Node → Prop
  | .scalar _ style text => text = "" ∨ .scalar text style ∈ ts
  | .aliasOf _ => ∃ name, .aliasOf name ∈ ts
  | .sequence .. | .mapping .. => True

theorem Node.IsFrom.of_suffix {n : Node} {ts us : List Token} (h : n.IsFrom ts) (hs : ts <:+ us) :
    n.IsFrom us := by
  cases n with
  | scalar p style text => exact h.imp_right (hs.mem ·)
  | aliasOf number => exact h.imp fun _ hname => hs.mem hname
  | sequence p items => trivial
  | mapping p entries => trivial

theorem writtenProperties_suffix (ts : List Token) : (writtenProperties ts).2.2 <:+ ts := by
  unfold writtenProperties
  split
  · exact (List.suffix_cons ..).trans (List.suffix_cons ..)
  · exact (List.suffix_cons ..).trans (List.suffix_cons ..)
  · exact List.suffix_cons ..
  · exact List.suffix_cons ..
  · exact List.suffix_refl _

theorem nodeProperties_suffix {handles : TagHandles} {r r' : Rest} {p : Properties}
    (h : nodeProperties handles r = .ok (p, r')) : r'.tokens <:+ r.tokens := by
  have hsuffix := writtenProperties_suffix r.tokens
  rw [nodeProperties] at h
  generalize writtenProperties r.tokens = written at h hsuffix
  obtain ⟨anchor, tag, tokens⟩ := written
  cases tag with
  | none => cases anchor <;> cases h <;> exact hsuffix
  | some written =>
      obtain ⟨tag, -, h⟩ := exists_of_bind_eq_ok h
      cases anchor <;> cases h <;> exact hsuffix

theorem isFrom_emptyNode {p : Properties} {r r' : Rest} {n : Node} (ts : List Token)
    (h : node.emptyNode p r = .ok (n, r')) : n.IsFrom ts := by
  rw [node.emptyNode] at h
  split at h
  · cases h
  · cases h
    exact .inl rfl

/-- A collection is made of whatever its items are made of. -/
theorem isFrom_collection {α : Type} {x : Except Error (α × Rest)} {make : α → Node}
    {ts : List Token} {r : Rest} {n : Node}
    (h : (x >>= fun v => .ok (make v.1, v.2)) = .ok (n, r)) (hmake : ∀ a, (make a).IsFrom ts) :
    n.IsFrom ts := by
  obtain ⟨v, -, h⟩ := exists_of_bind_eq_ok h
  cases h
  exact hmake v.1

theorem isFrom_node {handles : TagHandles} {fuel : Nat} {place : Place} {r r' : Rest} {n : Node}
    (h : node handles fuel place r = .ok (n, r')) : n.IsFrom r.tokens := by
  cases fuel with
  | zero => cases h
  | succ fuel =>
    rw [node] at h
    split at h
    · rename_i name hname
      split at h
      · cases h
        exact ⟨name, List.mem_of_head? hname⟩
      · cases h
    · obtain ⟨⟨properties, behind⟩, hproperties, h⟩ := exists_of_bind_eq_ok h
      have hsuffix := nodeProperties_suffix hproperties
      dsimp only at h
      split at h
      · split at h
        · exact isFrom_collection h fun _ => trivial
        · exact isFrom_emptyNode _ h
      · rename_i text style hscalar
        cases h
        exact .inr (hsuffix.mem (List.mem_of_head? hscalar))
      · exact isFrom_collection h fun _ => trivial
      · exact isFrom_collection h fun _ => trivial
      · split at h
        · exact isFrom_collection h fun _ => trivial
        · exact isFrom_emptyNode _ h
      · split at h
        · exact isFrom_collection h fun _ => trivial
        · exact isFrom_emptyNode _ h
      · exact isFrom_emptyNode _ h

theorem directives_suffix {version : Bool} {handles handles' : TagHandles} {ts ts' : List Token}
    (h : directives version handles ts = .ok (handles', ts')) : ts' <:+ ts := by
  fun_induction directives version handles ts with
  | case1 => cases h
  | case2 _ _ _ _ _ _ ih => exact (ih h).trans (List.suffix_cons ..)
  | case3 => cases h
  | case4 _ _ _ _ _ _ ih => exact (ih h).trans (List.suffix_cons ..)
  | case5 =>
      cases h
      exact List.suffix_refl _

theorem isFrom_firstDocument {ts ts' : List Token} {root : Node}
    (h : firstDocument ts = .ok (root, ts')) : root.IsFrom ts := by
  rw [firstDocument] at h
  obtain ⟨⟨handles, after⟩, hdirectives, h⟩ := exists_of_bind_eq_ok h
  dsimp only at h
  have hbody : (if (after.head? == some .documentStart) = true then after.drop 1 else after) <:+
      ts := by
    refine .trans ?_ (directives_suffix hdirectives)
    split
    · exact List.drop_suffix ..
    · exact List.suffix_refl _
  generalize (if (after.head? == some .documentStart) = true then after.drop 1 else after) =
    body at h hbody
  split at h
  · cases h
  · split at h
    · cases h
      exact .inl rfl
    · obtain ⟨⟨n, r⟩, hnode, h⟩ := exists_of_bind_eq_ok h
      cases h
      exact (isFrom_node hnode).of_suffix hbody

/-- The root of a document is made of its tokens. -/
theorem isFrom_root {s : String} {ts : List Token} {d : Document} {root : Node}
    (htokens : tokens s.toList = .ok ts) (h : Document.ofText s = .ok d)
    (hroot : d.root = some root) : root.IsFrom ts := by
  rw [Document.ofText] at h
  obtain ⟨us, hus, h⟩ := exists_of_bind_eq_ok h
  obtain rfl : ts = us := Except.ok.inj (htokens.symm.trans hus)
  split at h
  · cases h
    cases hroot
  · obtain ⟨⟨n, rest⟩, hfirst, h⟩ := exists_of_bind_eq_ok h
    dsimp only at h
    split at h
    · cases h
      cases hroot
      exact isFrom_firstDocument hfirst
    · cases h

/-! ## From nodes to data -/

/-- Whether data has a tag. -/
def Data.isTagged : Data → Bool
  | .tagged .. => true
  | _ => false

/-- A node is read as the data, with collections nested at most `depth` deep. -/
def Says (depth : Nat) (n : Node) (d : Data) : Prop :=
  ∀ (document : Document) (jumps : Nat), n.data depth document jumps = .ok (d, jumps)

theorem data_scalar (depth : Nat) (style : Style) (text : String) :
    (Node.scalar .none style text).data depth =
      if style == .plain then resolved text else pure (.string text) := by
  cases depth <;> rfl

theorem says_quoted {depth : Nat} {style : Style} {text : String} (h : style ≠ .plain) :
    Says depth (.scalar .none style text) (.string text) := by
  intro document jumps
  rw [data_scalar, if_neg (by simpa using h)]
  rfl

/-- The data of a plain scalar, if it has one. -/
def Resolved.data? (text : String) : Resolved → Option Data
  | .null => some .null
  | .bool b => some (.bool b)
  | .number n => some (.number n)
  | .string => some (.string text)
  | .oversized => none

theorem says_plain {depth : Nat} {text : String} {d : Data}
    (h : (resolve text.toList).data? text = some d) :
    Says depth (.scalar .none .plain text) d := by
  intro document jumps
  rw [data_scalar, if_pos (by decide), resolved]
  cases hr : resolve text.toList <;> rw [hr] at h <;> cases h <;> rfl

/-- What each item of a sequence is read as. -/
def SaysItems (depth : Nat) (ns : List Node) (ds : List Data) : Prop :=
  ∀ (document : Document) (jumps : Nat),
    (ns.mapM (Node.data depth)) document jumps = .ok (ds, jumps)

theorem saysItems_nil {depth : Nat} : SaysItems depth [] [] := fun _ _ => rfl

theorem SaysItems.cons {depth : Nat} {n : Node} {ns : List Node} {d : Data} {ds : List Data}
    (h : Says depth n d) (hs : SaysItems depth ns ds) : SaysItems depth (n :: ns) (d :: ds) := by
  intro document jumps
  rw [List.mapM_cons]
  simp only [bind, ReaderT.bind, StateT.bind, Except.bind, h document jumps, hs document jumps]
  rfl

theorem says_sequence {depth : Nat} {ns : List Node} {ds : List Data}
    (h : SaysItems depth ns ds) : Says (depth + 1) (.sequence .none ns) (.sequence ds) := by
  intro document jumps
  have hitems := h document jumps
  simp only [Node.data, Node.dataWith, Node.follow, bind, ReaderT.bind, StateT.bind, Except.bind,
    hitems]
  rfl

/-- Keys that are texts are the same only if the texts are. -/
theorem sameKey_string (s t : String) : Data.sameKey (.string s) (.string t) = (s == t) := rfl

/-- The keys that were read are among these texts. -/
def AreAmong (before : List (Data × Data)) (seen : List String) : Prop :=
  ∀ e ∈ before, ∃ s ∈ seen, e.1 = .string s

theorem AreAmong.cons {before : List (Data × Data)} {seen : List String} (h : AreAmong before seen)
    (s : String) (d : Data) : AreAmong ((.string s, d) :: before) (s :: seen) := by
  intro e he
  rcases List.mem_cons.1 he with rfl | he
  · exact ⟨s, List.mem_cons_self .., rfl⟩
  · obtain ⟨t, ht, heq⟩ := h e he
    exact ⟨t, List.mem_cons_of_mem _ ht, heq⟩

/-- A text that is not among these is another key. -/
theorem AreAmong.new {before : List (Data × Data)} {seen : List String} (h : AreAmong before seen)
    {s : String} (hseen : s ∉ seen) : ∀ e ∈ before, e.1.sameKey (.string s) = false := by
  intro e he
  obtain ⟨t, ht, heq⟩ := h e he
  have hne : t ≠ s := fun hts => hseen (hts ▸ ht)
  rw [heq]
  simpa [sameKey_string] using hne

/-- An entry with a new key comes in front of what its value leaves. -/
theorem readEntries_cons {depth : Nat} {k v : Node} {key : Data} {es : List (Node × Node)}
    {before : List (Data × Data)} {document : Document} {jumps : Nat} (hk : Says depth k key)
    (hnew : ∀ e ∈ before, e.1.sameKey key = false) :
    readEntries (Node.data depth) before ((k, v) :: es) document jumps =
      (v.data depth document jumps).bind fun r =>
        readEntries (Node.data depth) ((key, r.1) :: before) es document r.2 := by
  have hany : ∀ isKey : Data × Data → Bool, (∀ e, isKey e = e.1.sameKey key) →
      before.any isKey = false := fun isKey hisKey =>
    List.any_eq_false.2 fun e he => by simp [hisKey, hnew e he]
  rw [readEntries]
  simp only [bind, ReaderT.bind, StateT.bind, Except.bind, hk document jumps,
    hany _ fun _ => rfl, Bool.false_eq_true, if_false]

/-- What the entries of a mapping are read as, behind entries with the keys `seen`. -/
def SaysEntries (depth : Nat) (seen : List String) (es : List (Node × Node))
    (ds : List (Data × Data)) : Prop :=
  ∀ (document : Document) (jumps : Nat) (before : List (Data × Data)), AreAmong before seen →
    readEntries (Node.data depth) before es document jumps = .ok (before.reverse ++ ds, jumps)

theorem saysEntries_nil {depth : Nat} {seen : List String} : SaysEntries depth seen [] [] := by
  intro document jumps before _
  rw [readEntries, List.append_nil]
  rfl

theorem SaysEntries.cons {depth : Nat} {seen : List String} {k v : Node} {s : String} {d : Data}
    {es : List (Node × Node)} {ds : List (Data × Data)} (hk : Says depth k (.string s))
    (hv : Says depth v d) (hseen : s ∉ seen) (hs : SaysEntries depth (s :: seen) es ds) :
    SaysEntries depth seen ((k, v) :: es) ((.string s, d) :: ds) := by
  intro document jumps before hbefore
  have hrest := hs document jumps _ (hbefore.cons s d)
  rw [readEntries_cons hk (hbefore.new hseen), hv document jumps]
  simpa [Except.bind] using hrest

theorem data_mapping (depth : Nat) (es : List (Node × Node)) (document : Document) (jumps : Nat) :
    (Node.mapping .none es).data (depth + 1) document jumps =
      (readEntries (Node.data depth) [] es document jumps).map fun (ds, jumps) =>
        (.mapping ds, jumps) := by
  simp only [Node.data, Node.dataWith, Node.follow, bind, ReaderT.bind, StateT.bind, Except.bind]
  cases readEntries (Node.data depth) [] es document jumps <;> rfl

theorem says_mapping {depth : Nat} {es : List (Node × Node)} {ds : List (Data × Data)}
    (h : SaysEntries depth [] es ds) : Says (depth + 1) (.mapping .none es) (.mapping ds) := by
  intro document jumps
  have hentries := h document jumps [] (by simp [AreAmong])
  rw [data_mapping, hentries]
  rfl

end WorkItems.Yaml
