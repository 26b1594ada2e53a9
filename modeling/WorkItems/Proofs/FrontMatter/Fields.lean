import WorkItems.Proofs.FrontMatter.BlockStyle
import WorkItems.Proofs.FrontMatter.OneLine
import WorkItems.Proofs.Yaml.TopLevel
/-!
# The lines of fields

Each field of an item is an entry of the mapping that its block is. The name of the entry is the
name of the field, and its node stands for the value.
-/

namespace WorkItems.FrontMatter

open Yaml Yaml.Lexer

/-! ## Blocks of entries -/

/-- A node that is read as a name. -/
def IsName (k : Node) (name : String) : Prop :=
  ∃ style, k = .scalar .none style name ∧ ReadsAsString style name.toList

/-- The lines of a field are an entry with this key and this node. -/
def ReadsField (lines : List Char) (name : String) (n : Node) : Prop :=
  ∃ style ts, ReadsAsString style name.toList ∧ Parses .entry ts n ∧
    ReadsLines .blockMappingStart 0 lines (.key :: .scalar name style :: .value :: ts)

/-- A block with one entry at least. -/
def ReadsBlock (block : List Char) (es : List (Node × Node)) : Prop :=
  ∃ ts, ParsesEntries ts es ∧ ReadsLines .blockMappingStart 0 block ts

/-- What is left of a block behind an entry. -/
def BlockRest (block : List Char) (es : List (Node × Node)) : Prop :=
  (block = [] ∧ es = []) ∨ ReadsBlock block es

theorem ReadsField.block {lines block : List Char} {name : String} {n : Node}
    {es : List (Node × Node)} (h : ReadsField lines name n) (hs : BlockRest block es) :
    ∃ k, IsName k name ∧ ReadsBlock (lines ++ block) ((k, n) :: es) := by
  obtain ⟨style, ts, hstring, hparses, hreads⟩ := h
  refine ⟨.scalar .none style name, ⟨style, rfl, hstring⟩, ?_⟩
  rcases hs with ⟨rfl, rfl⟩ | ⟨us, hentries, hreads'⟩
  · refine ⟨_, .cons (parses_scalar .entry name style) hparses parsesEntries_nil, ?_⟩
    simpa using hreads
  · refine ⟨_, .cons (parses_scalar .entry name style) hparses hentries, ?_⟩
    simpa [pad] using hreads.append hreads'

/-- A block is read as one mapping. -/
theorem ReadsBlock.document {block : String} {es : List (Node × Node)}
    (h : ReadsBlock block.toList es) (hallowed : ∀ c ∈ block.toList, isAllowed c = true) :
    ∃ d, Yaml.Document.ofText block = .ok d ∧ d.root = some (.mapping .none es) := by
  obtain ⟨ts, hentries, hreads⟩ := h
  exact ⟨_, documentOfText_eq (parses_blockMapping rfl hentries)
    (tokens_entries hreads hallowed), rfl⟩

/-! ## The five fields -/

/-- A value on the line of its key. -/
theorem readsBehind_line {value : List Char} {ts : List Token} (h : EndsLine 0 value ts) :
    ReadsBehind ⟨0, false, true⟩ (' ' :: value) ts :=
  EndsLine.readsBehind ⟨0, false, true⟩ h

theorem readsField_core {item : Item} {field : CoreField} {style : Style}
    (h : Written (item.core field).toList style (coreText (item.core field)).toList) :
    ReadsField (coreLine item field).toList field.name
      (.scalar .none style (item.core field)) := by
  obtain ⟨halnum, hne, hlength, hmark⟩ : (∀ c ∈ field.name.toList, c.isAlphanum = true) ∧
      field.name.toList ≠ [] ∧ field.name.toList.length ≤ 1024 ∧
        field.name.toList.head? ≠ some '\ufeff' := by
    cases field <;> decide
  have hresolve : resolve field.name.toList = .string := by cases field <;> rfl
  have hkey := (isPlainScalar_word halnum hne false).isKey (atMarker_word halnum)
  have hvalue := h.endsLine 0
  rw [String.ofList_toList] at hkey hvalue
  have hentry := (readsBehind_line hvalue).entry hkey
    ((Written.plain (isPlainScalar_word halnum hne true)).startsToken fun _ => hmark) hlength
  refine ⟨.plain, _, .inr hresolve, parses_scalar .entry _ style, ?_⟩
  simpa [coreLine, String.toList_append] using hentry

/-! ## Configurable fields -/

/-- What a configurable field asks of its value: a mapping with entries is in block style. -/
def conditionOf : Value → Value.Condition
  | .mapping (_ :: _) => inBlockStyle
  | _ => onOneLine

/-- A configurable field that is read as it was. -/
structure Prints (name : String) (value : Value) : Prop where
  written : IsWritten name
  length : (fieldText name).length ≤ 1024
  parts : value.Fulfils (conditionOf value)
  ordered : value.Ordered

theorem readsField_of_value {name : String} {n : Node} {ts : List Token} {value : List Char}
    (h : IsWritten name) (hlength : (fieldText name).length ≤ 1024) (hparses : Parses .entry ts n)
    (hvalue : ReadsBehind ⟨0, false, true⟩ value ts) :
    ReadsField ((fieldText name).toList ++ ':' :: value) name n := by
  obtain ⟨style, hwritten, hstring, hplain⟩ := h
  have hkey := hwritten.isKey fun hs => (hplain hs).1
  rw [String.ofList_toList] at hkey
  exact ⟨style, ts, hstring, hparses,
    hvalue.entry hkey (hwritten.startsToken fun hs => (hplain hs).2)
      (by rwa [String.length_toList])⟩

theorem readsField_inline {name : String} {v : Value} (h : IsWritten name)
    (hlength : (fieldText name).length ≤ 1024) (hv : PrintsOnLine v) :
    ∃ n, Means n v ∧ ReadsField (fieldText name ++ ": " ++ inline v ++ "\n").toList name n := by
  obtain ⟨ts, hdenotes, hreads⟩ := hv
  obtain ⟨n, hparses, hmeans⟩ := hdenotes .entry
  have hfield := readsField_of_value h hlength hparses (readsBehind_line (hreads.endsLine 0))
  exact ⟨n, hmeans, by simpa [String.toList_append] using hfield⟩

/-- Lines that are moved to the right below a key, as a mapping of their own. -/
theorem readsBehind_moved {lines : List Char} {ts : List Token}
    (h : MovedLines .blockMappingStart 0 lines ts) :
    ReadsBehind ⟨0, false, true⟩ ('\n' :: moved true lines)
      (.blockMappingStart :: (ts ++ [.blockEnd])) := by
  have htext : moved true lines = pad 2 ++ moved false lines := moved_pad 0 h.starts
  rw [htext]
  exact h.reads.below ⟨0, false, true⟩

theorem render_mapping (e : String × Value) (es : List (String × Value)) :
    (toData (.mapping (e :: es))).render.toList =
      Data.entryLines 0 true (toDataEntries (e :: es)) := by
  obtain ⟨key, value⟩ := e
  rw [toData, toDataEntries, Data.render, String.toList_ofList]

theorem readsField_mapping {name : String} {e : String × Value} {es : List (String × Value)}
    (h : IsWritten name) (hlength : (fieldText name).length ≤ 1024)
    (hlines : movedReading.WritesEntries 0 (toDataEntries (e :: es))) :
    ReadsField (fieldLines name (.mapping (e :: es))).toList name
      (toData (.mapping (e :: es))).written := by
  obtain ⟨ts, hparses, hmoved⟩ := hlines
  rw [← render_mapping] at hmoved
  have htext : (fieldLines name (.mapping (e :: es))).toList = (fieldText name).toList ++
      ':' :: '\n' :: moved true (toData (.mapping (e :: es))).render.toList := by
    rw [fieldLines, String.toList_append, shifted_eq hmoved.whole.noReturn (.inr hmoved.whole.ends)]
    simp [String.toList_append]
  rw [htext]
  exact readsField_of_value h hlength (parses_blockMapping rfl hparses) (readsBehind_moved hmoved)

theorem Prints.reads {name : String} {value : Value} (h : Prints name value) :
    ∃ n, Means n value ∧ ReadsField (fieldLines name value).toList name n := by
  match value, h with
  | .mapping (e :: es), h =>
      exact ⟨_, means_written h.parts h.ordered, readsField_mapping h.written h.length
        (writesEntries_moved h.parts (List.cons_ne_nil e es) 0)⟩
  | .mapping [], h | .sequence _, h | .string _, h | .number _, h | .bool _, h | .null, h =>
      exact readsField_inline h.written h.length (printsOnLine h.parts h.ordered)

/-! ## All configurable fields -/

/-- The keys of these entries are the names. -/
def AreNamed (ns : List (Node × Node)) (es : List (String × Value)) : Prop :=
  ∀ n ∈ ns, ∃ e ∈ es, IsName n.1 e.1

theorem readsFields : ∀ {es : List (String × Value)} {seen : List String},
    (∀ e ∈ es, Prints e.1 e.2) → Fresh seen es →
    ∃ ns, BlockRest (es.flatMap fun e => (fieldLines e.1 e.2).toList) ns ∧
      MeansEntries seen ns es ∧ AreNamed ns es
  | [], _, _, _ => ⟨[], .inl ⟨rfl, rfl⟩, meansEntries_nil, by simp [AreNamed]⟩
  | (name, value) :: es, seen, h, hfresh => by
      obtain ⟨n, hmeans, hreads⟩ := (h _ (List.mem_cons_self ..)).reads
      obtain ⟨ns, hrest, hmeans', hnamed⟩ :=
        readsFields (fun e he => h e (List.mem_cons_of_mem _ he)) hfresh.tail.2
      obtain ⟨k, hname, hblock⟩ := hreads.block hrest
      have hkey : Means k (.string name) := by
        obtain ⟨style, rfl, hstring⟩ := hname
        exact means_string hstring
      refine ⟨(k, n) :: ns, .inr hblock, .cons hkey hmeans hfresh.tail.1 hmeans', ?_⟩
      intro m hm
      rcases List.mem_cons.1 hm with rfl | hm
      · exact ⟨_, List.mem_cons_self .., hname⟩
      · obtain ⟨e, he, hname⟩ := hnamed m hm
        exact ⟨e, List.mem_cons_of_mem _ he, hname⟩

end WorkItems.FrontMatter
