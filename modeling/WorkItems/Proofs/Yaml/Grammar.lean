import WorkItems.Yaml.Node
/-!
# Tokens and the nodes they stand for

`Parses` says that tokens stand for a node wherever they come, with twice as much fuel as there are
tokens. The readers of lists of nodes have predicates of their own, for what is left of a list
behind an element: a list is put together from its end.
-/

namespace WorkItems.Yaml

/-- A node with this tag. -/
def Node.tagged (tag : String) : Node → Node
  | scalar p style text => scalar { p with tag := some tag } style text
  | sequence p items => sequence { p with tag := some tag } items
  | mapping p entries => mapping { p with tag := some tag } entries
  | aliasOf number => aliasOf number

/-- A token with which the content of a node starts, in any place. -/
def Token.startsContent : Token → Bool
  | scalar .. | flowSequenceStart | flowMappingStart | blockSequenceStart | blockMappingStart =>
      true
  | _ => false

/-- A token with which a node without an anchor starts, in any place. -/
def Token.startsNode : Token → Bool
  | tag .. => true
  | t => t.startsContent

/--
Tokens that stand for a node without an anchor. A sequence that has no indentation of its own goes
on with every item that follows it.
-/
structure Parses (place : Place) (ts : List Token) (n : Node) : Prop where
  first : ∃ t ts', ts = t :: ts' ∧
    (t.startsNode = true ∨ (place.indentless = true ∧ t = .blockEntry))
  node : ∀ (fuel : Nat) (rest : List Token), 2 * ts.length ≤ fuel →
    (place.indentless = true → rest.head? ≠ some .blockEntry) →
    node defaultHandles fuel place ⟨ts ++ rest, []⟩ = .ok (n, ⟨rest, []⟩)

section Readers

variable {fuel : Nat} {t ts u us rest : List Token} {n k v : Node}
  {ns : List Node} {es : List (Node × Node)}

theorem nodeProperties_of_first {a : Token} (h : a.startsContent = true ∨ a = .blockEntry) :
    nodeProperties defaultHandles ⟨a :: ts, []⟩ = .ok (.none, ⟨a :: ts, []⟩) := by
  cases a <;> first | rfl | simp [Token.startsContent] at h

theorem parses_scalar (place : Place) (text : String) (style : Style) :
    Parses place [.scalar text style] (.scalar .none style text) where
  first := ⟨_, _, rfl, .inl rfl⟩
  node fuel rest hfuel _ := by
    obtain ⟨fuel, rfl⟩ : ∃ n, fuel = n + 1 := ⟨fuel - 1, by simp at hfuel; omega⟩
    rw [Yaml.node]
    simp [Rest.peek?, nodeProperties_of_first (a := .scalar text style) (.inl rfl), bind,
      Except.bind, Rest.skip, Properties.none]

/-! ## Tags -/

/-- The tag in front of the content of a node. -/
theorem nodeProperties_tag {a : Token} (tag : String)
    (h : a.startsContent = true ∨ a = .blockEntry) :
    nodeProperties defaultHandles ⟨.tag "!" tag :: a :: ts, []⟩ =
      .ok (⟨.none, some ("!" ++ tag)⟩, ⟨a :: ts, []⟩) := by
  cases a <;> first | rfl | simp [Token.startsContent] at h

theorem tagged_of_bind {α : Type} {r : Except Error (α × Rest)} {f g : α → Node} {tag : String}
    {left : Rest} (h : (r.bind fun v => .ok (f v.1, v.2)) = .ok (n, left))
    (hg : ∀ a, g a = (f a).tagged tag) :
    (r.bind fun v => Except.ok (g v.1, v.2)) = .ok (n.tagged tag, left) := by
  cases r with
  | error e => cases h
  | ok v =>
      cases h
      rw [← hg]
      rfl

/-- The same tokens behind a tag. -/
theorem Parses.tagged {place : Place} {a : Token} {tag : String} (h : Parses place (a :: ts) n)
    (hfirst : a.startsContent = true ∨ a = .blockEntry) (htag : tag ≠ "") :
    Parses place (.tag "!" tag :: a :: ts) (n.tagged ("!" ++ tag)) where
  first := ⟨_, _, rfl, .inl rfl⟩
  node fuel rest hfuel hhead := by
    simp only [List.length_cons] at hfuel
    obtain ⟨fuel, rfl⟩ : ∃ m, fuel = m + 1 := ⟨fuel - 1, by omega⟩
    have hnode := h.node (fuel + 1) rest (by simp only [List.length_cons]; omega) hhead
    have hkept : "!" ++ tag ≠ "!" := by
      intro heq
      exact htag (by simpa using heq)
    rw [List.cons_append, Yaml.node] at hnode
    rw [List.cons_append, List.cons_append, Yaml.node]
    simp only [Rest.peek?, List.head?_cons, nodeProperties_of_first hfirst,
      nodeProperties_tag tag hfirst, bind, Except.bind] at hnode ⊢
    cases a with
    | scalar text style =>
        obtain ⟨rfl, hrest⟩ := Prod.mk.inj (Except.ok.inj hnode)
        simp [Node.tagged, hkept, Properties.none, hrest]
    | flowSequenceStart => exact tagged_of_bind hnode fun _ => rfl
    | flowMappingStart => exact tagged_of_bind hnode fun _ => rfl
    | blockSequenceStart =>
        dsimp only at hnode ⊢
        split at hnode
        · rename_i hblock
          rw [if_pos hblock]
          exact tagged_of_bind hnode fun _ => rfl
        · cases hnode
    | blockMappingStart =>
        dsimp only at hnode ⊢
        split at hnode
        · rename_i hblock
          rw [if_pos hblock]
          exact tagged_of_bind hnode fun _ => rfl
        · cases hnode
    | blockEntry =>
        dsimp only at hnode ⊢
        split at hnode
        · rename_i hindentless
          rw [if_pos hindentless]
          exact tagged_of_bind hnode fun _ => rfl
        · cases hnode
    | _ => simp [Token.startsContent] at hfirst

/-! ## Flow sequences -/

/-- What is left of a flow sequence behind an item. -/
def ParsesFlowItems (ts : List Token) (ns : List Node) : Prop :=
  ∀ (fuel : Nat) (rest : List Token), 2 * ts.length < fuel →
    flowItems defaultHandles fuel false ⟨ts ++ .flowSequenceEnd :: rest, []⟩ = .ok (ns, ⟨rest, []⟩)

theorem parsesFlowItems_nil : ParsesFlowItems [] [] := by
  intro fuel rest hfuel
  obtain ⟨fuel, rfl⟩ : ∃ n, fuel = n + 1 := ⟨fuel - 1, by omega⟩
  rw [flowItems]
  rfl

/-- An item of a flow sequence that stands at the cursor. -/
theorem flowItems_item (h : Parses .inFlow t n) (hs : ParsesFlowItems ts ns)
    (hfuel : 2 * (t.length + ts.length) < fuel) :
    flowItems defaultHandles (fuel + 1) true ⟨t ++ (ts ++ .flowSequenceEnd :: rest), []⟩ =
      .ok (n :: ns, ⟨rest, []⟩) := by
  obtain ⟨a, t', rfl, hstart⟩ := h.first
  have hcontent : a.startsNode = true := hstart.resolve_right (by simp [Place.inFlow])
  have hitem := h.node fuel (ts ++ .flowSequenceEnd :: rest) (by omega)
    (by simp [Place.inFlow])
  have hrest := hs fuel rest (by omega)
  rw [flowItems]
  cases a <;> first
    | (simp [Token.startsNode, Token.startsContent] at hcontent; done)
    | (simp only [List.cons_append] at hitem
       simp [Rest.peek?, bind, Except.bind, pure, Except.pure, hitem, hrest])

/-- The comma in front of a further item. -/
theorem flowItems_comma :
    flowItems defaultHandles (fuel + 1) false ⟨.flowEntry :: t, []⟩ =
      flowItems defaultHandles (fuel + 1) true ⟨t, []⟩ := by
  rw [flowItems, flowItems]
  cases t with
  | nil => rfl
  | cons a t => cases a <;> rfl

theorem ParsesFlowItems.cons (h : Parses .inFlow t n) (hs : ParsesFlowItems ts ns) :
    ParsesFlowItems (.flowEntry :: (t ++ ts)) (n :: ns) := by
  intro fuel rest hfuel
  obtain ⟨fuel, rfl⟩ : ∃ m, fuel = m + 1 := ⟨fuel - 1, by omega⟩
  simp only [List.length_cons, List.length_append] at hfuel
  rw [List.cons_append, flowItems_comma, List.append_assoc]
  exact flowItems_item h hs (by omega)

/-- A flow sequence opens: what its items stand for is what it stands for. -/
theorem node_flowSequence {place : Place}
    (h : flowItems defaultHandles fuel true ⟨ts, []⟩ = .ok (ns, ⟨rest, []⟩)) :
    node defaultHandles (fuel + 1) place ⟨.flowSequenceStart :: ts, []⟩ =
      .ok (.sequence .none ns, ⟨rest, []⟩) := by
  rw [Yaml.node]
  simp [Rest.peek?, nodeProperties_of_first (a := .flowSequenceStart) (.inl rfl), bind,
    Except.bind, Rest.skip, h]

theorem parses_emptyFlowSequence (place : Place) :
    Parses place [.flowSequenceStart, .flowSequenceEnd] (.sequence .none []) where
  first := ⟨_, _, rfl, .inl rfl⟩
  node fuel rest hfuel _ := by
    simp only [List.length_cons, List.length_nil] at hfuel
    obtain ⟨fuel, rfl⟩ : ∃ m, fuel = m + 2 := ⟨fuel - 2, by omega⟩
    refine node_flowSequence ?_
    rw [flowItems]
    rfl

theorem parses_flowSequence (place : Place) (h : Parses .inFlow t n) (hs : ParsesFlowItems ts ns) :
    Parses place (.flowSequenceStart :: (t ++ (ts ++ [.flowSequenceEnd])))
      (.sequence .none (n :: ns)) where
  first := ⟨_, _, rfl, .inl rfl⟩
  node fuel rest hfuel _ := by
    simp only [List.length_cons, List.length_append] at hfuel
    obtain ⟨fuel, rfl⟩ : ∃ m, fuel = m + 2 := ⟨fuel - 2, by omega⟩
    rw [List.cons_append, List.append_assoc, List.append_assoc]
    exact node_flowSequence (flowItems_item h hs (by omega))

/-! ## Flow mappings -/

/-- What is left of a flow mapping behind an entry. -/
def ParsesFlowEntries (ts : List Token) (es : List (Node × Node)) : Prop :=
  ∀ (fuel : Nat) (rest : List Token), 2 * ts.length < fuel →
    flowEntries defaultHandles fuel false ⟨ts ++ .flowMappingEnd :: rest, []⟩ = .ok (es, ⟨rest, []⟩)

theorem parsesFlowEntries_nil : ParsesFlowEntries [] [] := by
  intro fuel rest hfuel
  obtain ⟨fuel, rfl⟩ : ∃ n, fuel = n + 1 := ⟨fuel - 1, by omega⟩
  rw [flowEntries]
  rfl

theorem flowEntries_entry (hk : Parses .inFlow t k) (hv : Parses .inFlow u v)
    (hs : ParsesFlowEntries ts es) (hfuel : 2 * (t.length + u.length + ts.length) < fuel) :
    flowEntries defaultHandles (fuel + 1) true
        ⟨.key :: (t ++ .value :: (u ++ (ts ++ .flowMappingEnd :: rest))), []⟩ =
      .ok ((k, v) :: es, ⟨rest, []⟩) := by
  obtain ⟨a, t', rfl, ha⟩ := hk.first
  obtain ⟨b, u', rfl, hb⟩ := hv.first
  have hacontent : a.startsNode = true := ha.resolve_right (by simp [Place.inFlow])
  have hbcontent : b.startsNode = true := hb.resolve_right (by simp [Place.inFlow])
  have hkey := hk.node fuel (.value :: (b :: u' ++ (ts ++ .flowMappingEnd :: rest)))
    (by omega) (by simp [Place.inFlow])
  have hvalue := hv.node fuel (ts ++ .flowMappingEnd :: rest) (by omega)
    (by simp [Place.inFlow])
  have hrest := hs fuel rest (by omega)
  simp only [List.cons_append] at hkey hvalue
  rw [List.cons_append, flowEntries]
  cases a <;> first
    | (simp [Token.startsNode, Token.startsContent] at hacontent; done)
    | (cases b <;> first
        | (simp [Token.startsNode, Token.startsContent] at hbcontent; done)
        | simp [Rest.peek?, Rest.skip, bind, Except.bind, pure, Except.pure, hkey, hvalue, hrest])

/-- The comma in front of a further entry. -/
theorem flowEntries_comma :
    flowEntries defaultHandles (fuel + 1) false ⟨.flowEntry :: t, []⟩ =
      flowEntries defaultHandles (fuel + 1) true ⟨t, []⟩ := by
  rw [flowEntries, flowEntries]
  cases t with
  | nil => rfl
  | cons a t => cases a <;> rfl

theorem ParsesFlowEntries.cons (hk : Parses .inFlow t k) (hv : Parses .inFlow u v)
    (hs : ParsesFlowEntries ts es) :
    ParsesFlowEntries (.flowEntry :: .key :: (t ++ .value :: (u ++ ts))) ((k, v) :: es) := by
  intro fuel rest hfuel
  obtain ⟨fuel, rfl⟩ : ∃ m, fuel = m + 1 := ⟨fuel - 1, by omega⟩
  simp only [List.length_cons, List.length_append] at hfuel
  rw [List.cons_append, List.cons_append, flowEntries_comma, List.append_assoc, List.cons_append,
    List.append_assoc]
  exact flowEntries_entry hk hv hs (by omega)

/-- A flow mapping opens: what its entries stand for is what it stands for. -/
theorem node_flowMapping {place : Place}
    (h : flowEntries defaultHandles fuel true ⟨ts, []⟩ = .ok (es, ⟨rest, []⟩)) :
    node defaultHandles (fuel + 1) place ⟨.flowMappingStart :: ts, []⟩ =
      .ok (.mapping .none es, ⟨rest, []⟩) := by
  rw [Yaml.node]
  simp [Rest.peek?, nodeProperties_of_first (a := .flowMappingStart) (.inl rfl), bind,
    Except.bind, Rest.skip, h]

theorem parses_emptyFlowMapping (place : Place) :
    Parses place [.flowMappingStart, .flowMappingEnd] (.mapping .none []) where
  first := ⟨_, _, rfl, .inl rfl⟩
  node fuel rest hfuel _ := by
    simp only [List.length_cons, List.length_nil] at hfuel
    obtain ⟨fuel, rfl⟩ : ∃ m, fuel = m + 2 := ⟨fuel - 2, by omega⟩
    refine node_flowMapping ?_
    rw [flowEntries]
    rfl

theorem parses_flowMapping (place : Place) (hk : Parses .inFlow t k) (hv : Parses .inFlow u v)
    (hs : ParsesFlowEntries ts es) :
    Parses place (.flowMappingStart :: .key :: (t ++ .value :: (u ++ (ts ++ [.flowMappingEnd]))))
      (.mapping .none ((k, v) :: es)) where
  first := ⟨_, _, rfl, .inl rfl⟩
  node fuel rest hfuel _ := by
    simp only [List.length_cons, List.length_append] at hfuel
    obtain ⟨fuel, rfl⟩ : ∃ m, fuel = m + 2 := ⟨fuel - 2, by omega⟩
    rw [List.cons_append, List.cons_append, List.append_assoc, List.cons_append,
      List.append_assoc, List.append_assoc]
    exact node_flowMapping (flowEntries_entry hk hv hs (by omega))

/-! ## Block sequences -/

/-- What is left of a block sequence, from an item on. -/
def ParsesItems (ts : List Token) (ns : List Node) : Prop :=
  ∀ (fuel : Nat) (rest : List Token), 2 * ts.length < fuel →
    blockItems defaultHandles fuel ⟨ts ++ .blockEnd :: rest, []⟩ = .ok (ns, ⟨rest, []⟩)

theorem parsesItems_nil : ParsesItems [] [] := by
  intro fuel rest hfuel
  obtain ⟨fuel, rfl⟩ : ∃ n, fuel = n + 1 := ⟨fuel - 1, by omega⟩
  rw [blockItems]
  rfl

theorem ParsesItems.cons (h : Parses .item t n) (hs : ParsesItems ts ns) :
    ParsesItems (.blockEntry :: (t ++ ts)) (n :: ns) := by
  intro fuel rest hfuel
  obtain ⟨fuel, rfl⟩ : ∃ m, fuel = m + 1 := ⟨fuel - 1, by omega⟩
  obtain ⟨a, t', rfl, ha⟩ := h.first
  have hcontent : a.startsNode = true := ha.resolve_right (by simp [Place.item])
  simp only [List.length_cons, List.length_append] at hfuel
  have hitem := h.node fuel (ts ++ .blockEnd :: rest)
    (by simp only [List.length_cons]; omega) (by simp [Place.item])
  have hrest := hs fuel rest (by omega)
  simp only [List.cons_append] at hitem
  rw [List.cons_append, List.append_assoc, List.cons_append, blockItems]
  cases a <;> first
    | (simp [Token.startsNode, Token.startsContent] at hcontent; done)
    | simp [Rest.peek?, Rest.skip, bind, Except.bind, hitem, hrest]

theorem parses_blockSequence {place : Place} (hplace : place.block = true)
    (hs : ParsesItems ts ns) :
    Parses place (.blockSequenceStart :: (ts ++ [.blockEnd])) (.sequence .none ns) where
  first := ⟨_, _, rfl, .inl rfl⟩
  node fuel rest hfuel _ := by
    simp only [List.length_cons, List.length_append] at hfuel
    obtain ⟨fuel, rfl⟩ : ∃ m, fuel = m + 1 := ⟨fuel - 1, by omega⟩
    have hitems := hs fuel rest (by omega)
    rw [List.cons_append, List.append_assoc, Yaml.node]
    simp [Rest.peek?, nodeProperties_of_first (a := .blockSequenceStart) (.inl rfl), bind,
      Except.bind, Rest.skip, hplace, hitems]

/-- What is left of a sequence without an indentation of its own, from an item on. -/
def ParsesIndentless (ts : List Token) (ns : List Node) : Prop :=
  ∀ (fuel : Nat) (rest : List Token), 0 < fuel →
    2 * ts.length ≤ fuel + 1 → rest.head? ≠ some .blockEntry →
    indentlessItems defaultHandles fuel ⟨ts ++ rest, []⟩ = .ok (ns, ⟨rest, []⟩)

theorem parsesIndentless_nil : ParsesIndentless [] [] := by
  intro fuel rest hpos _ hrest
  obtain ⟨fuel, rfl⟩ : ∃ n, fuel = n + 1 := ⟨fuel - 1, by omega⟩
  rw [indentlessItems, List.nil_append]
  cases rest with
  | nil => rfl
  | cons a rest => cases a <;> first | rfl | exact absurd rfl hrest

theorem ParsesIndentless.cons (h : Parses .item t n) (hs : ParsesIndentless ts ns) :
    ParsesIndentless (.blockEntry :: (t ++ ts)) (n :: ns) := by
  intro fuel rest hpos hfuel hhead
  obtain ⟨fuel, rfl⟩ : ∃ m, fuel = m + 1 := ⟨fuel - 1, by omega⟩
  obtain ⟨a, t', rfl, ha⟩ := h.first
  have hcontent : a.startsNode = true := ha.resolve_right (by simp [Place.item])
  simp only [List.length_cons, List.length_append] at hfuel
  have hitem := h.node fuel (ts ++ rest)
    (by simp only [List.length_cons]; omega) (by simp [Place.item])
  have hrest := hs fuel rest (by omega) (by omega) hhead
  simp only [List.cons_append] at hitem
  rw [List.cons_append, List.append_assoc, List.cons_append, indentlessItems]
  cases a <;> first
    | (simp [Token.startsNode, Token.startsContent] at hcontent; done)
    | simp [Rest.peek?, Rest.skip, bind, Except.bind, endsBlockEntry, hitem, hrest]

theorem parses_indentless (hs : ParsesIndentless (.blockEntry :: ts) ns) :
    Parses .entry (.blockEntry :: ts) (.sequence .none ns) where
  first := ⟨_, _, rfl, .inr ⟨rfl, rfl⟩⟩
  node fuel rest hfuel hhead := by
    simp only [List.length_cons] at hfuel
    obtain ⟨fuel, rfl⟩ : ∃ m, fuel = m + 1 := ⟨fuel - 1, by omega⟩
    have hitems := hs fuel rest (by omega) (by simp only [List.length_cons]; omega)
      (hhead rfl)
    simp only [List.cons_append] at hitems
    rw [List.cons_append, Yaml.node]
    simp [Rest.peek?, nodeProperties_of_first (a := .blockEntry) (.inr rfl), bind,
      Except.bind, Place.entry, hitems]

/-! ## Block mappings -/

/-- What is left of a block mapping, from an entry on. -/
def ParsesEntries (ts : List Token) (es : List (Node × Node)) : Prop :=
  ts.head? ≠ some .blockEntry ∧
    ∀ (fuel : Nat) (rest : List Token), 2 * ts.length < fuel →
      blockEntries defaultHandles fuel ⟨ts ++ .blockEnd :: rest, []⟩ = .ok (es, ⟨rest, []⟩)

theorem parsesEntries_nil : ParsesEntries [] [] := by
  refine ⟨by simp, fun fuel rest hfuel => ?_⟩
  obtain ⟨fuel, rfl⟩ : ∃ n, fuel = n + 1 := ⟨fuel - 1, by omega⟩
  rw [blockEntries]
  rfl

/-- The value of an entry. -/
theorem blockValue_value (fuel : Nat) (h : Parses .entry u v) (hfuel : 2 * u.length ≤ fuel)
    (hhead : rest.head? ≠ some .blockEntry) :
    blockValue defaultHandles (fuel + 1) ⟨.value :: (u ++ rest), []⟩ = .ok (v, ⟨rest, []⟩) := by
  obtain ⟨a, u', rfl, ha⟩ := h.first
  have hvalue := h.node fuel rest hfuel fun _ => hhead
  simp only [List.cons_append] at hvalue
  have hcontent : endsBlockEntry (some a) = false := by
    rcases ha with ha | ⟨-, rfl⟩
    · cases a <;> first | rfl | simp [Token.startsNode, Token.startsContent] at ha
    · rfl
  rw [List.cons_append, blockValue]
  simp [Rest.peek?, Rest.skip, hcontent, hvalue]

theorem ParsesEntries.cons (hk : Parses .entry t k) (hv : Parses .entry u v)
    (hs : ParsesEntries ts es) :
    ParsesEntries (.key :: (t ++ .value :: (u ++ ts))) ((k, v) :: es) := by
  refine ⟨by simp, fun fuel rest hfuel => ?_⟩
  obtain ⟨fuel, rfl⟩ : ∃ m, fuel = m + 2 := by
    simp only [List.length_cons] at hfuel
    exact ⟨fuel - 2, by omega⟩
  obtain ⟨a, t', rfl, ha⟩ := hk.first
  simp only [List.length_cons, List.length_append] at hfuel
  have hhead : (ts ++ .blockEnd :: rest).head? ≠ some .blockEntry := by
    cases ts with
    | nil => simp
    | cons b ts => simpa using hs.1
  have hkey := hk.node (fuel + 1) (.value :: (u ++ (ts ++ .blockEnd :: rest)))
    (by simp only [List.length_cons]; omega) (by simp)
  have hvalue := blockValue_value fuel hv (by omega) hhead
  have hrest := hs.2 (fuel + 1) rest (by omega)
  simp only [List.cons_append] at hkey
  have hcontent : endsBlockEntry (some a) = false := by
    rcases ha with ha | ⟨-, rfl⟩
    · cases a <;> first | rfl | simp [Token.startsNode, Token.startsContent] at ha
    · rfl
  rw [List.cons_append, List.append_assoc, List.cons_append, List.cons_append, List.append_assoc,
    blockEntries]
  simp [Rest.peek?, Rest.skip, bind, Except.bind, hcontent, hkey, hvalue, hrest]

theorem parses_blockMapping {place : Place} (hplace : place.block = true)
    (hs : ParsesEntries ts es) :
    Parses place (.blockMappingStart :: (ts ++ [.blockEnd])) (.mapping .none es) where
  first := ⟨_, _, rfl, .inl rfl⟩
  node fuel rest hfuel _ := by
    simp only [List.length_cons, List.length_append] at hfuel
    obtain ⟨fuel, rfl⟩ : ∃ m, fuel = m + 1 := ⟨fuel - 1, by omega⟩
    have hentries := hs.2 fuel rest (by omega)
    rw [List.cons_append, List.append_assoc, Yaml.node]
    simp [Rest.peek?, nodeProperties_of_first (a := .blockMappingStart) (.inl rfl), bind,
      Except.bind, Rest.skip, hplace, hentries]

end Readers

end WorkItems.Yaml
