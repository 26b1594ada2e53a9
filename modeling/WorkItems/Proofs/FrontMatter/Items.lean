import WorkItems.Proofs.FrontMatter.AllowedTexts
import WorkItems.Proofs.FrontMatter.Delimiters
/-!
# Reading back what was written

A block is read twice. As data it gives the configurable fields, and the five fields have to be data
too, although what they are read as is dropped. As a record it gives the texts of the five fields.
-/

namespace WorkItems.FrontMatter

open Yaml

/-! ## The entries of the five fields -/

/-- A text without quotes that is an integer no number can hold. -/
def IsOversized (s : String) : Prop := needsQuotes s = false ∧ resolve s.toList = .oversized

/-- The node of one of the five fields. -/
def coreNode (item : Item) (field : CoreField) : Node :=
  .scalar .none (coreStyle (item.core field)) (item.core field)

/-- The entries that these of the five fields are read as. -/
inductive CoreEntries (item : Item) : List CoreField → List (Node × Node) → Prop where
  | nil : CoreEntries item [] []
  | cons {k : Node} {field : CoreField} {fields : List CoreField} {ms : List (Node × Node)} :
      IsName k field.name → CoreEntries item fields ms →
      CoreEntries item (field :: fields) ((k, coreNode item field) :: ms)

/-- A text that can be one of the five fields. -/
structure IsCoreText (s : String) : Prop where
  noSeparator : NoSeparator s.toList
  noNextLine : needsQuotes s = false → '\u0085' ∉ s.toList

theorem readsCore {item : Item} (hcore : ∀ field, IsCoreText (item.core field)) {block : List Char}
    {ns : List (Node × Node)} (h : BlockRest block ns) :
    ∀ fields : List CoreField, ∃ ms, CoreEntries item fields ms ∧
      BlockRest ((fields.flatMap fun field => (coreLine item field).toList) ++ block) (ms ++ ns)
  | [] => ⟨[], .nil, h⟩
  | field :: fields => by
      obtain ⟨ms, hentries, hrest⟩ := readsCore hcore h fields
      have hwritten := written_coreText (hcore field).noSeparator (hcore field).noNextLine
      obtain ⟨k, hname, hblock⟩ := (readsField_core hwritten).block hrest
      refine ⟨_, .cons hname hentries, .inr ?_⟩
      rw [List.flatMap_cons, List.append_assoc]
      exact hblock

/-! ## As data -/

theorem IsName.says_string {k : Node} {name : String} (h : IsName k name) (depth : Nat) :
    Says depth k (.string name) := by
  obtain ⟨style, rfl, hstring⟩ := h
  exact means_string hstring depth (Nat.zero_le _)

/-- What one of the five fields is read as is dropped, but it has to be read. -/
theorem says_coreNode {item : Item} {field : CoreField} (h : ¬IsOversized (item.core field))
    (depth : Nat) : ∃ v : Value, v.Ordered ∧ Says depth (coreNode item field) (toData v) := by
  rw [coreNode, coreStyle]
  split
  · exact ⟨.string _, trivial, says_quoted (by decide)⟩
  · rename_i hquotes
    simp only [Bool.or_eq_true, not_or, Bool.not_eq_true] at hquotes
    cases hresolve : resolve (item.core field).toList with
    | null => exact ⟨.null, trivial, says_plain (by rw [hresolve]; rfl)⟩
    | bool b => exact ⟨.bool b, trivial, says_plain (by rw [hresolve]; rfl)⟩
    | number n => exact ⟨.number n, trivial, says_plain (by rw [hresolve]; rfl)⟩
    | string => exact ⟨.string _, trivial, says_plain (by rw [hresolve]; rfl)⟩
    | oversized => exact absurd ⟨hquotes.1, hresolve⟩ h

theorem data_coreNode_oversized {item : Item} {field : CoreField}
    (h : IsOversized (item.core field)) (depth : Nat) (document : Yaml.Document) (jumps : Nat) :
    (coreNode item field).data depth document jumps = .error .wrongType := by
  have hnull : isNullText (item.core field).toList = false := by
    cases hnull : isNullText (item.core field).toList with
    | false => rfl
    | true =>
        have hresolve := h.2
        rw [resolve, hnull, Bool.or_true] at hresolve
        cases hresolve
  have hstyle : coreStyle (item.core field) = .plain := by
    rw [coreStyle, h.1, hnull]
    rfl
  rw [coreNode, hstyle, data_scalar, if_pos (by decide), resolved, h.2]
  rfl

/-- The keys of the five fields, the last one first, in front of those of other entries. -/
def namesBefore (fields : List CoreField) (seen : List String) : List String :=
  fields.foldl (fun seen field => field.name :: seen) seen

theorem mem_namesBefore {fields : List CoreField} {s : String} :
    ∀ {seen : List String}, s ∈ namesBefore fields seen ↔
      s ∈ seen ∨ ∃ field ∈ fields, field.name = s := by
  induction fields with
  | nil => simp [namesBefore]
  | cons field fields ih =>
      intro seen
      rw [namesBefore, List.foldl_cons, ← namesBefore, ih]
      simp only [List.mem_cons, exists_eq_or_imp]
      constructor
      · rintro ((rfl | h) | h)
        · exact .inr (.inl rfl)
        · exact .inl h
        · exact .inr (.inr h)
      · rintro (h | rfl | h)
        · exact .inl (.inr h)
        · exact .inl (.inl rfl)
        · exact .inr h

section Data

variable {item : Item} {depth : Nat} {fields : List CoreField} {ms ns : List (Node × Node)}

theorem saysEntries_core (depth : Nat) {es : List (String × Value)} (h : CoreEntries item fields ms)
    (hsize : ∀ field ∈ fields, ¬IsOversized (item.core field)) {seen : List String}
    (hnodup : (fields.map CoreField.name).Nodup)
    (hnew : ∀ field ∈ fields, field.name ∉ seen)
    (hs : SaysEntries depth (namesBefore fields seen) ns (toDataEntries es)) :
    ∃ vs : List (String × Value), vs.map (·.1) = fields.map CoreField.name ∧
      Value.OrderedEntries vs ∧ SaysEntries depth seen (ms ++ ns) (toDataEntries (vs ++ es)) := by
  induction h generalizing seen with
  | nil => exact ⟨[], rfl, trivial, hs⟩
  | @cons k field fields ms hname _ ih =>
      obtain ⟨v, hordered, hv⟩ := says_coreNode (hsize field (List.mem_cons_self ..)) depth
      rw [List.map_cons, List.nodup_cons] at hnodup
      have hnew' : ∀ f ∈ fields, f.name ∉ field.name :: seen := by
        intro f hf hmem
        rcases List.mem_cons.1 hmem with heq | hmem
        · exact hnodup.1 (heq ▸ List.mem_map_of_mem hf)
        · exact hnew f (List.mem_cons_of_mem _ hf) hmem
      obtain ⟨vs, hkeys, hordered', hvs⟩ :=
        ih (fun f hf => hsize f (List.mem_cons_of_mem _ hf)) hnodup.2 hnew' hs
      refine ⟨(field.name, v) :: vs, by rw [List.map_cons, List.map_cons, hkeys],
        ⟨hordered, hordered'⟩, ?_⟩
      exact .cons (hname.says_string depth) hv (hnew field (List.mem_cons_self ..)) hvs

/-- One text that no number can hold is enough for the block not to be data. -/
theorem readEntries_oversized (depth : Nat) (ns : List (Node × Node))
    (h : CoreEntries item fields ms)
    (hsize : ∃ field ∈ fields, IsOversized (item.core field)) {seen : List String}
    (hnodup : (fields.map CoreField.name).Nodup)
    (hnew : ∀ field ∈ fields, field.name ∉ seen) (document : Yaml.Document) (jumps : Nat)
    {before : List (Data × Data)} (hbefore : AreAmong before seen) :
    readEntries (Node.data depth) before (ms ++ ns) document jumps = .error .wrongType := by
  induction h generalizing seen before with
  | nil => exact absurd hsize (by simp)
  | @cons k field fields ms hname _ ih =>
      rw [List.map_cons, List.nodup_cons] at hnodup
      rw [List.cons_append, readEntries_cons (hname.says_string depth)
        (hbefore.new (hnew field (List.mem_cons_self ..)))]
      by_cases hfield : IsOversized (item.core field)
      · rw [data_coreNode_oversized hfield]
        rfl
      · obtain ⟨v, -, hv⟩ := says_coreNode hfield depth
        obtain ⟨f, hf, hover⟩ := hsize
        have hmem : f ∈ fields := (List.mem_cons.1 hf).resolve_left (by
          rintro rfl
          exact hfield hover)
        have hnew' : ∀ f ∈ fields, f.name ∉ field.name :: seen := by
          intro f hf hmem
          rcases List.mem_cons.1 hmem with heq | hmem
          · exact hnodup.1 (heq ▸ List.mem_map_of_mem hf)
          · exact hnew f (List.mem_cons_of_mem _ hf) hmem
        rw [hv document jumps]
        exact ih ⟨f, hmem, hover⟩ hnodup.2 hnew' (hbefore.cons _ _)

end Data

/-! ## As a record -/

section Record

variable {item : Item} {document : Yaml.Document} {jumps : Nat}

theorem text_name {k : Node} {name : String} (h : IsName k name) :
    k.text document jumps = .ok (name, jumps) := by
  obtain ⟨style, rfl, -⟩ := h
  rfl

/-- Names that no field of a record has are skipped. -/
theorem collectFields_skip {known : List String} {acc : Record} {ns : List (Node × Node)}
    (h : ∀ n ∈ ns, ∃ name, IsName n.1 name ∧ name ∉ known) :
    collectFields known acc ns document jumps = .ok (acc, jumps) := by
  induction ns with
  | nil => rfl
  | cons n ns ih =>
      obtain ⟨k, v⟩ := n
      obtain ⟨name, hname, hknown⟩ := h _ (List.mem_cons_self ..)
      have hcontains : known.contains name = false := by simpa using hknown
      rw [collectFields]
      simp only [bind, ReaderT.bind, StateT.bind, Except.bind, text_name hname, hcontains]
      exact ih fun m hm => h m (List.mem_cons_of_mem _ hm)

/-- The fields of a record in front of others. -/
theorem collectFields_core (document : Yaml.Document) (jumps : Nat) {fields : List CoreField}
    {ms : List (Node × Node)} (ns : List (Node × Node)) (acc : Record)
    (h : CoreEntries item fields ms) (hnodup : (fields.map CoreField.name).Nodup)
    (hnew : ∀ field ∈ fields, ∀ e ∈ acc, e.1 ≠ field.name) :
    collectFields (CoreField.all.map CoreField.name) acc (ms ++ ns) document jumps =
      collectFields (CoreField.all.map CoreField.name)
        (fields.foldl (fun acc field => (field.name, coreNode item field) :: acc) acc) ns
        document jumps := by
  induction h generalizing acc with
  | nil => rfl
  | @cons k field fields ms hname _ ih =>
      rw [List.map_cons, List.nodup_cons] at hnodup
      have hknown : (CoreField.all.map CoreField.name).contains field.name = true := by
        cases field <;> decide
      have hfresh : (acc.any fun e => e.1 == field.name) = false := by
        rw [List.any_eq_false]
        intro e he
        simpa using hnew field (List.mem_cons_self ..) e he
      have hnew' : ∀ f ∈ fields, ∀ e ∈ (field.name, coreNode item field) :: acc, e.1 ≠ f.name := by
        intro f hf e he
        rcases List.mem_cons.1 he with rfl | he
        · exact fun heq => hnodup.1 (List.mem_map.2 ⟨f, hf, Eq.symm heq⟩)
        · exact hnew f (List.mem_cons_of_mem _ hf) e he
      rw [List.cons_append, collectFields]
      simp only [bind, ReaderT.bind, StateT.bind, Except.bind, text_name hname, hknown, hfresh]
      exact ih _ hnodup.2 hnew'

/-- The text of one of the five fields is the one that was written. -/
theorem optional_coreNode {r : Record} {field : CoreField}
    (h : r.find? field.name = some (coreNode item field)) :
    (r.optional field.name Yaml.Node.text) document jumps =
      .ok (some (item.core field), jumps) := by
  rw [Record.optional, Record.withDefault, h, coreNode, coreStyle]
  split
  · rfl
  · rename_i hquotes
    simp only [Bool.or_eq_true, not_or, Bool.not_eq_true] at hquotes
    have hempty : (item.core field).isEmpty = false := by
      have hneeds := hquotes.1
      simp only [needsQuotes, Bool.or_eq_false_iff] at hneeds
      rw [Bool.eq_false_iff, Ne, String.isEmpty_iff]
      intro heq
      simp [heq] at hneeds
    have hmissing : isMissing .none .plain (item.core field) = pure false := by
      simp [isMissing, Properties.none, hempty, hquotes.2]
    simp only [Node.optional, Node.follow, bind, ReaderT.bind, StateT.bind, Except.bind, hmissing]
    rfl

/-- The record of a block holds the five texts. -/
theorem record_block (document : Yaml.Document) (jumps : Nat) {ms ns : List (Node × Node)}
    (h : CoreEntries item CoreField.all ms)
    (hrest : ∀ n ∈ ns, ∃ name, IsName n.1 name ∧ isCoreName name = false) :
    ∃ r : Record, (∀ field : CoreField, r.find? field.name = some (coreNode item field)) ∧
      (Node.mapping .none (ms ++ ns)).record (CoreField.all.map CoreField.name) document jumps =
        .ok (r, jumps) := by
  have hskip : ∀ n ∈ ns, ∃ name, IsName n.1 name ∧ name ∉ CoreField.all.map CoreField.name := by
    intro n hn
    obtain ⟨name, hname, hcore⟩ := hrest n hn
    refine ⟨name, hname, fun hmem => ?_⟩
    obtain ⟨field, hfield, rfl⟩ := List.mem_map.1 hmem
    cases field <;> exact absurd hcore (by decide)
  have hcore := collectFields_core document jumps ns [] h (by decide) (by simp)
  rw [collectFields_skip hskip] at hcore
  refine ⟨_, fun field => ?_, hcore⟩
  cases field <;> rfl

end Record

/-! ## Items -/

/-- What an item has to fulfil for its block to be YAML that means what it should. -/
structure Readable (item : Item) : Prop where
  core : ∀ field, IsCoreText (item.core field)
  fields : ∀ e ∈ item.fields.entries, Prints e.1 e.2
  noCoreName : ∀ e ∈ item.fields.entries, isCoreName e.1 = false
  nesting : Value.nestingEntries item.fields.entries < nestingLimit
  allowed : IsAllowedText (block item)

/-- Some text of an item is an integer no number can hold. -/
def HasOversized (item : Item) : Prop := ∃ field, IsOversized (item.core field)

section Items

variable {item : Item}

theorem mem_all (field : CoreField) : field ∈ CoreField.all := by cases field <;> decide

theorem toList_block (item : Item) :
    (block item).toList = (CoreField.all.flatMap fun field => (coreLine item field).toList) ++
      item.fields.entries.flatMap fun e => (fieldLines e.1 e.2).toList := by
  simp [block, String.toList_append, String.toList_join, List.flatMap_map]

theorem head?_block (item : Item) : (block item).toList.head? = some 'i' := by
  rw [toList_block]
  simp [CoreField.all, coreLine, CoreField.name, String.toList_append]

theorem namesBefore_fresh (h : ∀ e ∈ item.fields.entries, isCoreName e.1 = false) :
    Fresh (namesBefore CoreField.all []) item.fields.entries := by
  refine ⟨item.fields.sorted, fun s hs e he heq => ?_⟩
  obtain ⟨field, -, rfl⟩ := (mem_namesBefore.1 hs).resolve_left (by simp)
  have hcore := h e he
  rw [heq] at hcore
  cases field <;> exact absurd hcore (by decide)

/-- The block of a readable item is a mapping of its fields. -/
theorem Readable.document (h : Readable item) :
    ∃ d ms ns, Yaml.Document.ofText (block item) = .ok d ∧
      d.root = some (.mapping .none (ms ++ ns)) ∧ CoreEntries item CoreField.all ms ∧
      MeansEntries (namesBefore CoreField.all []) ns item.fields.entries ∧
      ∀ n ∈ ns, ∃ name, IsName n.1 name ∧ isCoreName name = false := by
  obtain ⟨ns, hrest, hmeans, hnamed⟩ := readsFields h.fields (namesBefore_fresh h.noCoreName)
  obtain ⟨ms, hentries, hblock⟩ := readsCore h.core hrest CoreField.all
  rw [← toList_block] at hblock
  have hblock : ReadsBlock (block item).toList (ms ++ ns) := hblock.resolve_left fun hnil => by
    have hhead := head?_block item
    rw [hnil.1] at hhead
    cases hhead
  obtain ⟨d, hd, hroot⟩ := hblock.document h.allowed
  refine ⟨d, ms, ns, hd, hroot, hentries, hmeans, fun n hn => ?_⟩
  obtain ⟨e, he, hname⟩ := hnamed n hn
  exact ⟨e.1, hname, h.noCoreName e he⟩

theorem mapM_read (item : Item) {d : Yaml.Document} (jumps : Nat) (fields : List CoreField)
    (read : CoreField → Read (CoreField × String))
    (h : ∀ field, read field d jumps = .ok ((field, item.core field), jumps)) :
    fields.mapM read d jumps = .ok (fields.map fun field => (field, item.core field), jumps) := by
  induction fields with
  | nil => rfl
  | cons field fields ih =>
      rw [List.mapM_cons]
      simp only [bind, ReaderT.bind, StateT.bind, Except.bind, h field, ih]
      rfl

theorem readCore_block {block : String} {d : Yaml.Document} {ms ns : List (Node × Node)}
    (hd : Yaml.Document.ofText block = .ok d) (hroot : d.root = some (.mapping .none (ms ++ ns)))
    (hentries : CoreEntries item CoreField.all ms)
    (hnames : ∀ n ∈ ns, ∃ name, IsName n.1 name ∧ isCoreName name = false) :
    readCore block = .ok item.core := by
  obtain ⟨r, hfind, hrecord⟩ := record_block d 0 hentries hnames
  have htext : ∀ field : CoreField, (r.optional field.name Yaml.Node.text) d 0 =
      .ok (some (item.core field), 0) := fun field => optional_coreNode (hfind field)
  have hmap := mapM_read item (d := d) 0 CoreField.all
    (fun field => do
      let text ← r.optional field.name Yaml.Node.text
      pure (field, text.getD "")) fun field => by
        simp only [bind, ReaderT.bind, StateT.bind, Except.bind, htext]
        rfl
  simp only [bind] at hmap
  simp only [readCore, readText, hd, bind, Except.bind, hroot, Option.getD_some, Read.run,
    ReaderT.bind, StateT.bind, hrecord, hmap]
  refine congrArg Except.ok (funext fun field => ?_)
  cases field <;> rfl

theorem configurable_of_core {vs : List (String × Value)}
    (hkeys : vs.map (·.1) = CoreField.all.map CoreField.name)
    (hnames : ∀ e ∈ item.fields.entries, isCoreName e.1 = false) :
    configurable (vs ++ item.fields.entries) = item.fields := by
  have hcore : vs.filter (fun e => !isCoreName e.1) = [] := by
    rw [List.filter_eq_nil_iff]
    intro e he
    have hmem : e.1 ∈ CoreField.all.map CoreField.name := hkeys ▸ List.mem_map_of_mem he
    obtain ⟨field, -, hfield⟩ := List.mem_map.1 hmem
    rw [← hfield]
    cases field <;> decide
  have hfields : item.fields.entries.filter (fun e => !isCoreName e.1) = item.fields.entries := by
    rw [List.filter_eq_self]
    intro e he
    rw [hnames e he]
    rfl
  refine Dict.ext_entries ?_
  rw [configurable, List.filter_append, hcore, hfields, List.nil_append, Dict.ofList]
  exact Entries.ofList_of_sorted item.fields.sorted

theorem isAllowedText_block (h : ∀ e ∈ item.fields.entries, Prints e.1 e.2) :
    IsAllowedText (block item) ↔
      (∀ field, IsAllowedText (coreText (item.core field))) ∧
        ∀ e ∈ item.fields.entries, IsAllowedText (fieldText e.1) ∧ IsAllowedValue e.2 := by
  have hblock : IsAllowedText (block item) ↔
      (∀ field, IsAllowedText (coreLine item field)) ∧
        ∀ e ∈ item.fields.entries, IsAllowedText (fieldLines e.1 e.2) := by
    simp only [IsAllowedText, Holds, toList_block, List.mem_append, List.mem_flatMap]
    constructor
    · intro h
      exact ⟨fun field c hc => h c (.inl ⟨field, mem_all field, hc⟩),
        fun e he c hc => h c (.inr ⟨e, he, hc⟩)⟩
    · rintro ⟨hcore, hfields⟩ c (⟨field, -, hc⟩ | ⟨e, he, hc⟩)
      · exact hcore field c hc
      · exact hfields e he c hc
  rw [hblock]
  refine and_congr (forall_congr' fun field => isAllowedText_coreLine) ?_
  exact forall_congr' fun e => forall_congr' fun he => isAllowedText_fieldLines (h e he)

theorem isBlankText_block (item : Item) : Text.isBlankText (block item) = false := by
  rw [Text.isBlankText, List.all_eq_false]
  exact ⟨'i', List.mem_of_head? (head?_block item), by decide⟩

/-- The block of a readable item says the item, if its five texts can be read as data. -/
theorem readItem_block (h : Readable item) (hsize : ¬HasOversized item) :
    readItem (block item) = .ok item := by
  obtain ⟨d, ms, ns, hd, hroot, hentries, hmeans, hnames⟩ := h.document
  obtain ⟨vs, hkeys, hordered, hsays⟩ := saysEntries_core 127 hentries
    (fun field _ hover => hsize ⟨field, hover⟩) (by decide) (by simp)
    (hmeans 127 (Nat.le_of_lt_succ h.nesting))
  have hmapping : Says nestingLimit (.mapping .none (ms ++ ns))
      (.mapping (toDataEntries (vs ++ item.fields.entries))) := says_mapping hsays
  have hdata : Data.ofText (block item) =
      .ok (.mapping (toDataEntries (vs ++ item.fields.entries))) := by
    rw [dataOfText_of_root hd hroot, Read.run, hmapping d 0]
    rfl
  have hvalues : Value.OrderedEntries (vs ++ item.fields.entries) := by
    refine Value.orderedEntries_iff.2 (List.forall_mem_append.2 ⟨?_, fun e he => ?_⟩)
    · exact Value.orderedEntries_iff.1 hordered
    · exact (h.fields e he).ordered
  simp only [readItem, isBlankText_block, hdata, readCore_block hd hroot hentries hnames,
    ofDataEntries_toDataEntries hvalues, configurable_of_core hkeys h.noCoreName]
  rfl

/-- Otherwise the block cannot be read, though nothing of it would be kept. -/
theorem readItem_block_oversized (h : Readable item) (hsize : HasOversized item) :
    readItem (block item) = .error (.malformed .wrongType) := by
  obtain ⟨d, ms, ns, hd, hroot, hentries, -, -⟩ := h.document
  obtain ⟨field, hover⟩ := hsize
  have hbefore : AreAmong [] [] := by simp [AreAmong]
  have hfails := readEntries_oversized 127 ns hentries
    ⟨field, mem_all field, hover⟩ (by decide) (by simp) d 0 hbefore
  have hmapping : (Node.mapping .none (ms ++ ns)).data nestingLimit d 0 = .error .wrongType := by
    rw [nestingLimit, data_mapping, hfails]
    rfl
  have hdata : Data.ofText (block item) = .error .wrongType := by
    rw [dataOfText_of_root hd hroot, Read.run, hmapping]
    rfl
  simp only [readItem, isBlankText_block, hdata]
  rfl

end Items

end WorkItems.FrontMatter
