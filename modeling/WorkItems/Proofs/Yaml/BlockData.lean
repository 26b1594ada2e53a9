import WorkItems.Proofs.Yaml.BlockStyle
import WorkItems.Proofs.Yaml.Meaning
import WorkItems.Proofs.Yaml.Tags
/-!
# Data in block style

Data is written in block style as the tokens of one node, the one that the data says it is
(`Data.written`). That is so wherever the texts of scalars and the lines of collections are read as
tokens: where they are printed, or further to the right. What has to hold there is a `BlockReading`,
and `BlockReading.behind` puts the texts of whole data together.
-/

namespace WorkItems.Yaml

open Lexer

/-! ## Nodes of data -/

mutual

/-- The node that data is written as. -/
def Data.written : Data → Node
  | .null => .scalar .none .plain "null"
  | .bool b => .scalar .none .plain (if b then "true" else "false")
  | .number n => .scalar .none .plain (numberText n)
  | .string s => .scalar .none (styleOf s.toList) s
  | .sequence ds => .sequence .none (Data.writtenItems ds)
  | .mapping es => .mapping .none (Data.writtenEntries es)
  | .tagged tag d => d.written.tagged ("!" ++ tag)

def Data.writtenItems : List Data → List Node
  | [] => []
  | d :: ds => d.written :: Data.writtenItems ds

def Data.writtenEntries : List (Data × Data) → List (Node × Node)
  | [] => []
  | (k, v) :: es => (k.written, v.written) :: Data.writtenEntries es

end

/-- A string says itself in the style that is chosen for it. -/
theorem says_styleOf {depth : Nat} (s : String) :
    Says depth (.scalar .none (styleOf s.toList) s) (.string s) := by
  have hstyled := styled_styleOf s.toList
  cases hstyle : styleOf s.toList with
  | plain =>
      rw [hstyle] at hstyled
      cases hstyled with
      | plain hstring _ => exact says_plain (by rw [hstring]; rfl)
  | _ => exact says_quoted (by simp)

/-- What data is made of: its numbers, its texts, and its tags with what they are in front of. -/
structure Data.Condition where
  number : Number → Prop
  text : String → Prop
  tag : String → Data → Prop

/-- Data is made of these parts. -/
inductive Data.Fulfils (c : Data.Condition) : Data → Prop where
  | null : Fulfils c .null
  | bool {b : Bool} : Fulfils c (.bool b)
  | number {n : Number} : c.number n → Fulfils c (.number n)
  | string {s : String} : c.text s → Fulfils c (.string s)
  | sequence {ds : List Data} : (∀ d ∈ ds, Fulfils c d) → Fulfils c (.sequence ds)
  | mapping {es : List (Data × Data)} : (∀ e ∈ es, Fulfils c e.1) → (∀ e ∈ es, Fulfils c e.2) →
      Fulfils c (.mapping es)
  | tagged {tag : String} {d : Data} : c.tag tag d → Fulfils c d → Fulfils c (.tagged tag d)

theorem Data.Fulfils.imp {c c' : Data.Condition} {d : Data} (h : d.Fulfils c)
    (hnumber : ∀ n, c.number n → c'.number n) (htext : ∀ s, c.text s → c'.text s)
    (htag : ∀ tag d, c.tag tag d → c'.tag tag d) : d.Fulfils c' := by
  induction h with
  | null => exact .null
  | bool => exact .bool
  | number h => exact .number (hnumber _ h)
  | string h => exact .string (htext _ h)
  | sequence _ ih => exact .sequence ih
  | mapping _ _ ihk ihv => exact .mapping ihk ihv
  | tagged h _ ih => exact .tagged (htag _ _ h) ih

/-! ## Ways to read block style -/

/-- Tokens that start with content, in front of which a tag may come. -/
def StartsContent (ts : List Token) : Prop :=
  ∃ t ts', ts = t :: ts' ∧ (t.startsContent = true ∨ t = .blockEntry)

/-- The place of a node at a spot. -/
def Spot.place (s : Spot) : Place := if s.inMapping then .entry else .item

theorem Spot.place_block (s : Spot) : s.place.block = true := by
  rw [Spot.place]
  split <;> rfl

/-- What can be read in front of a colon, with no more characters than this. -/
structure IsSimpleKey (bound : Nat) (text : List Char) (ts : List Token) : Prop where
  isKey : IsKey text ts
  starts : StartsToken text
  inLine : ∀ c ∈ text, IsInLine c
  length : text.length ≤ bound

/--
A way to read block style: what stands behind an indicator at a spot, and the lines of a collection
in a column. Each is made of the other as block style is.
-/
structure BlockReading where
  Behind : Spot → List Char → List Token → Prop
  Lines : Token → Nat → List Char → List Token → Prop
  continued {t : Token} {lines : List Char} {ts : List Token} (spot : Spot) :
    Lines t (spot.indent + 2) lines ts → spot.continuesLine = true →
      Behind spot (' ' :: lines) (t :: (ts ++ [.blockEnd]))
  below {t : Token} {lines : List Char} {ts : List Token} (spot : Spot) :
    Lines t (spot.indent + 2) lines ts →
      Behind spot ('\n' :: (pad (spot.indent + 2) ++ lines)) (t :: (ts ++ [.blockEnd]))
  indentless {t : Token} {lines : List Char} {ts : List Token} (spot : Spot) :
    Lines t spot.indent lines ts → Behind spot ('\n' :: (pad spot.indent ++ lines)) ts
  append {t : Token} {column : Nat} {lines lines' : List Char} {ts us : List Token} :
    Lines t column lines ts → Lines t column lines' us →
      Lines t column (lines ++ (pad column ++ lines')) (ts ++ us)
  item {column : Nat} {text : List Char} {ts : List Token} :
    Behind ⟨column, true, false⟩ text ts →
      Lines .blockSequenceStart column ('-' :: text) (.blockEntry :: ts)
  entry {column : Nat} {key text : List Char} {us ts : List Token} :
    IsSimpleKey 1024 key us → Behind ⟨column, false, true⟩ text ts →
      Lines .blockMappingStart column (key ++ ':' :: text) (.key :: (us ++ .value :: ts))
  explicitEntry {column : Nat} {key text : List Char} {us ts : List Token} :
    Behind ⟨column, true, true⟩ key us → Behind ⟨column, true, true⟩ text ts →
      Lines .blockMappingStart column ('?' :: (key ++ (pad column ++ ':' :: text)))
        (.key :: (us ++ .value :: ts))
  tagged {text : List Char} {ts : List Token} {tag : String} (spot : Spot) :
    Behind { spot with continuesLine := false } ('\n' :: text) ts → IsWritable tag →
      Behind spot (' ' :: (writtenTag tag ++ '\n' :: text)) (.tag "!" tag :: ts)

/-- In front of a colon data is written as the tokens of its node. -/
def WritesKey (d : Data) : Prop :=
  ∀ column, ∃ ts, Parses .entry ts d.written ∧ IsSimpleKey 1024 (d.lineText (column + 2)) ts

namespace BlockReading

variable (R : BlockReading)

/-- Behind an indicator data is written as the tokens of its node. -/
def Writes (d : Data) : Prop :=
  ∀ spot : Spot, ∃ ts, Parses spot.place ts d.written ∧ (d.isTagged = false → StartsContent ts) ∧
    R.Behind spot (d.behind spot) ts

/-- The lines of a sequence with elements. -/
def WritesItems (column : Nat) (ds : List Data) : Prop :=
  ∃ ts, ParsesItems (.blockEntry :: ts) (Data.writtenItems ds) ∧
    ParsesIndentless (.blockEntry :: ts) (Data.writtenItems ds) ∧
    R.Lines .blockSequenceStart column (Data.itemLines column true ds) (.blockEntry :: ts)

/-- The lines of a mapping with elements. -/
def WritesEntries (column : Nat) (es : List (Data × Data)) : Prop :=
  ∃ ts, ParsesEntries ts (Data.writtenEntries es) ∧
    R.Lines .blockMappingStart column (Data.entryLines column true es) ts

variable {R}

/-! ## Collections -/

theorem itemLines_false (column : Nat) (d : Data) (ds : List Data) :
    Data.itemLines column false (d :: ds) = pad column ++ Data.itemLines column true (d :: ds) := by
  simp [Data.itemLines]

theorem entryLines_false (column : Nat) (e : Data × Data) (es : List (Data × Data)) :
    Data.entryLines column false (e :: es) =
      pad column ++ Data.entryLines column true (e :: es) := by
  obtain ⟨k, d⟩ := e
  simp [Data.entryLines]

theorem writes_sequence {d : Data} {ds : List Data} (h : ∀ column, R.WritesItems column (d :: ds)) :
    R.Writes (.sequence (d :: ds)) := by
  intro spot
  -- The sequence has a column of its own unless it starts on a new line below a key.
  by_cases hspot : spot.inMapping = true ∧ spot.continuesLine = false
  · obtain ⟨ts, -, hparses, hlines⟩ := h spot.indent
    obtain ⟨indent, continues, inMapping⟩ := spot
    obtain ⟨rfl, rfl⟩ := hspot
    refine ⟨_, parses_indentless hparses, fun _ => ⟨_, _, rfl, .inr rfl⟩, ?_⟩
    rw [Data.behind, itemLines_false]
    exact R.indentless ⟨indent, false, true⟩ hlines
  · obtain ⟨ts, hparses, -, hlines⟩ := h (spot.indent + 2)
    have hcolumn : spot.sequenceColumn = spot.indent + 2 := by
      rw [Spot.sequenceColumn, if_neg]
      simpa using hspot
    refine ⟨_, parses_blockSequence spot.place_block hparses, fun _ => ⟨_, _, rfl, .inl rfl⟩, ?_⟩
    rw [Data.behind, hcolumn, Spot.opening]
    cases hcontinues : spot.continuesLine with
    | true => exact R.continued spot hlines hcontinues
    | false =>
        rw [itemLines_false]
        exact R.below spot hlines

theorem writes_mapping {e : Data × Data} {es : List (Data × Data)}
    (h : ∀ column, R.WritesEntries column (e :: es)) : R.Writes (.mapping (e :: es)) := by
  intro spot
  obtain ⟨ts, hparses, hlines⟩ := h (spot.indent + 2)
  refine ⟨_, parses_blockMapping spot.place_block hparses, fun _ => ⟨_, _, rfl, .inl rfl⟩, ?_⟩
  rw [Data.behind, Spot.opening]
  cases hcontinues : spot.continuesLine with
  | true => exact R.continued spot hlines hcontinues
  | false =>
      rw [entryLines_false]
      exact R.below spot hlines

section Lists

variable {column : Nat} {d k v : Data} {ds : List Data} {e : Data × Data} {es : List (Data × Data)}

theorem writesItems_single (h : R.Writes d) : R.WritesItems column [d] := by
  obtain ⟨ts, hparses, -, hbehind⟩ := h ⟨column, true, false⟩
  refine ⟨ts ++ [], .cons hparses parsesItems_nil, .cons hparses parsesIndentless_nil, ?_⟩
  simpa [Data.itemLines] using R.item hbehind

theorem WritesItems.cons (h : R.Writes d) (hs : R.WritesItems column (v :: ds)) :
    R.WritesItems column (d :: v :: ds) := by
  obtain ⟨ts, hparses, -, hbehind⟩ := h ⟨column, true, false⟩
  obtain ⟨us, hitems, hindentless, hlines⟩ := hs
  refine ⟨ts ++ .blockEntry :: us, .cons hparses hitems, .cons hparses hindentless, ?_⟩
  simpa [Data.itemLines] using R.append (R.item hbehind) hlines

theorem writesItems (h : ∀ d ∈ ds, R.Writes d) (hne : ds ≠ []) : R.WritesItems column ds := by
  induction ds with
  | nil => exact absurd rfl hne
  | cons d ds ih =>
      have hd := h d (List.mem_cons_self ..)
      cases ds with
      | nil => exact writesItems_single hd
      | cons w ds => exact .cons hd (ih (fun d hd => h d (List.mem_cons_of_mem _ hd)) (by simp))

/-- The text of an entry of a mapping, from its key on. -/
def entryText (column : Nat) (k v : Data) : List Char :=
  if k.isSimpleKey then k.lineText (column + 2) ++ ':' :: v.behind ⟨column, false, true⟩
  else '?' :: (k.behind ⟨column, true, true⟩ ++
    (pad column ++ ':' :: v.behind ⟨column, true, true⟩))

theorem entryLines_single : Data.entryLines column true [(k, v)] = entryText column k v := by
  rw [Data.entryLines, if_pos rfl, List.nil_append, Data.entryLines, List.append_nil, entryText]
  split <;> simp

theorem entryLines_cons :
    Data.entryLines column true ((k, v) :: e :: es) =
      entryText column k v ++ (pad column ++ Data.entryLines column true (e :: es)) := by
  rw [Data.entryLines, if_pos rfl, List.nil_append, entryLines_false, entryText]
  split <;> simp

/-- An entry, with its key in front of the colon or behind a question mark. -/
theorem lines_entry (hkey : k.isSimpleKey = true → WritesKey k) (hk : R.Writes k)
    (hv : R.Writes v) (column : Nat) :
    ∃ us ts, Parses .entry us k.written ∧ Parses .entry ts v.written ∧
      R.Lines .blockMappingStart column (entryText column k v) (.key :: (us ++ .value :: ts)) := by
  rw [entryText]
  split
  · rename_i hsimple
    obtain ⟨us, hparses, hreads⟩ := hkey hsimple column
    obtain ⟨ts, hparses', -, hbehind⟩ := hv ⟨column, false, true⟩
    exact ⟨us, ts, hparses, hparses', R.entry hreads hbehind⟩
  · obtain ⟨us, hparses, -, hbehind⟩ := hk ⟨column, true, true⟩
    obtain ⟨ts, hparses', -, hbehind'⟩ := hv ⟨column, true, true⟩
    exact ⟨us, ts, hparses, hparses', R.explicitEntry hbehind hbehind'⟩

theorem writesEntries (hkey : ∀ e ∈ es, e.1.isSimpleKey = true → WritesKey e.1)
    (hk : ∀ e ∈ es, R.Writes e.1) (hv : ∀ e ∈ es, R.Writes e.2) (hne : es ≠ []) :
    R.WritesEntries column es := by
  induction es with
  | nil => exact absurd rfl hne
  | cons e es ih =>
      obtain ⟨k, v⟩ := e
      have hmem : (k, v) ∈ (k, v) :: es := List.mem_cons_self ..
      obtain ⟨us, ts, hparses, hparses', hlines⟩ :=
        lines_entry (hkey _ hmem) (hk _ hmem) (hv _ hmem) column
      cases es with
      | nil =>
          refine ⟨.key :: (us ++ .value :: (ts ++ [])), .cons hparses hparses' parsesEntries_nil,
            ?_⟩
          rw [entryLines_single, List.append_nil]
          exact hlines
      | cons f es =>
          obtain ⟨ts', hentries, hlines'⟩ := ih (fun e he => hkey e (List.mem_cons_of_mem _ he))
            (fun e he => hk e (List.mem_cons_of_mem _ he))
            (fun e he => hv e (List.mem_cons_of_mem _ he)) (by simp)
          refine ⟨.key :: (us ++ .value :: (ts ++ ts')), .cons hparses hparses' hentries, ?_⟩
          rw [entryLines_cons]
          simpa using R.append hlines hlines'

end Lists

/-! ## Data -/

/-- The text of a collection that starts on a new line starts with a line feed. -/
theorem behind_newLine {d : Data} (hblock : d.isBlock = true) (htagged : d.isTagged = false)
    (spot : Spot) (hspot : spot.continuesLine = false) : ∃ text, d.behind spot = '\n' :: text := by
  have hopening : spot.opening = ['\n'] := by rw [Spot.opening, hspot]; rfl
  match d, hblock, htagged with
  | .sequence (d :: ds), _, _ => exact ⟨_, by rw [Data.behind, hopening]; rfl⟩
  | .mapping (e :: es), _, _ => exact ⟨_, by rw [Data.behind, hopening]; rfl⟩

/-- A collection behind its tag. -/
theorem writes_tagged {d : Data} {tag : String} (h : R.Writes d) (hblock : d.isBlock = true)
    (htagged : d.isTagged = false) (htag : IsWritable tag) : R.Writes (.tagged tag d) := by
  intro spot
  obtain ⟨ts, hparses, hstarts, hbehind⟩ := h { spot with continuesLine := false }
  obtain ⟨t, ts, rfl, hfirst⟩ := hstarts htagged
  obtain ⟨text, htext⟩ := behind_newLine hblock htagged { spot with continuesLine := false } rfl
  have hne : tag ≠ "" := by
    rintro rfl
    exact htag.ne_nil rfl
  have hparses' : Parses spot.place (t :: ts) d.written := hparses
  refine ⟨.tag "!" tag :: t :: ts, hparses'.tagged hfirst hne, by simp [Data.isTagged], ?_⟩
  rw [htext] at hbehind
  rw [Data.behind, if_pos hblock, htext]
  exact R.tagged spot hbehind htag

/-- What is not a collection with elements stands on the rest of a line. -/
theorem behind_of_line {d : Data} (h : d.isBlock = false) (spot : Spot) :
    d.behind spot = terminated (' ' :: d.lineText (spot.indent + 2)) := by
  cases d with
  | sequence ds => cases ds <;> simp_all [Data.isBlock, Data.behind]
  | mapping es => cases es <;> simp_all [Data.isBlock, Data.behind]
  | tagged tag d =>
      have hblock : d.isBlock = false := h
      rw [Data.behind, hblock, if_neg (by simp)]
  | _ => rw [Data.behind] <;> simp

/--
Data is written as the tokens of its node, if what stands on a line is: on the rest of one, and in
front of a colon.
-/
theorem behind {c : Data.Condition}
    (htag : ∀ tag d, c.tag tag d → IsWritable tag ∧ d.isTagged = false)
    (hline : ∀ d, d.Fulfils c → d.isBlock = false → R.Writes d)
    (hkey : ∀ d, d.Fulfils c → d.isSimpleKey = true → WritesKey d) {d : Data}
    (h : d.Fulfils c) : R.Writes d := by
  induction h with
  | null => exact hline _ .null rfl
  | bool => exact hline _ .bool rfl
  | number hn => exact hline _ (.number hn) rfl
  | string hs => exact hline _ (.string hs) rfl
  | @sequence ds hds ih =>
      cases ds with
      | nil => exact hline _ (.sequence hds) rfl
      | cons d ds => exact writes_sequence fun column => writesItems ih (by simp)
  | @mapping es hk hv ihk ihv =>
      cases es with
      | nil => exact hline _ (.mapping hk hv) rfl
      | cons e es => exact writes_mapping fun column =>
          writesEntries (fun e he => hkey _ (hk e he)) ihk ihv (by simp)
  | @tagged tag d ht hd ih =>
      cases hblock : d.isBlock with
      | true =>
          obtain ⟨hwritable, htagged⟩ := htag _ _ ht
          exact writes_tagged ih hblock htagged hwritable
      | false => exact hline _ (.tagged ht hd) hblock

end BlockReading

end WorkItems.Yaml
