import WorkItems.FrontMatter.Printer
import WorkItems.Proofs.FrontMatter.Quoting
import WorkItems.Proofs.FrontMatter.Values
import WorkItems.Proofs.Yaml.SafeText
import WorkItems.Proofs.Yaml.Integers
/-!
# Values on one line

A value on one line is read as it was, whether it stands inside of another one or behind the name of
a field.
-/

namespace WorkItems.FrontMatter

open Yaml Yaml.Lexer

/-! ## What the parts of a value have to be -/

/-- A text that is read as the string it was, also where a line starts. -/
def IsWritten (s : String) : Prop :=
  ∃ style, Written s.toList style (fieldText s).toList ∧ ReadsAsString style s.toList ∧
    (style = .plain → atMarker s.toList = false ∧ s.toList.head? ≠ some '\ufeff')

/-- What a value on one line asks of its parts. -/
def onOneLine : Value.Condition where
  text := IsWritten
  key s := IsWritten s ∧ (fieldText s).length ≤ 1024
  number n := NumberReads (numberText n) n

/-! ## Texts and their tokens -/

/-- On one line the text is read as these tokens, among others or alone. -/
structure ReadsOnLine (text : List Char) (ts : List Token) : Prop where
  inFlow : ∀ keyAllowed, FlowReads keyAllowed text ts
  endsLine : ∀ parent, EndsLine parent (text ++ ['\n']) ts

theorem Written.readsOnLine {cs text : List Char} {style : Style} (h : Written cs style text) :
    ReadsOnLine text [.scalar (String.ofList cs) style] := ⟨h.flowScalar.reads, h.endsLine⟩

theorem readsOnLine_of_collection {text : List Char} {ts : List Token}
    (h : FlowCollection text ts) : ReadsOnLine text ts := ⟨h.reads, h.endsLine⟩

/-- A value on one line is read as it was. -/
def PrintsOnLine (v : Value) : Prop :=
  ∃ ts, (∀ place, Denotes place ts v) ∧ ReadsOnLine (inline v).toList ts

theorem printsOnLine_plain {v : Value} {text : List Char} (htext : (inline v).toList = text)
    (h : IsPlainScalar true text)
    (hresolve : (resolve text).data? (String.ofList text) = some (toData v)) : PrintsOnLine v := by
  refine ⟨[.scalar (String.ofList text) .plain], fun place => denotes_scalar (means_plain ?_), ?_⟩
  · rwa [String.toList_ofList]
  · rw [htext]
    exact (Written.plain h).readsOnLine

/-! ## Elements with commas between them -/

/-- The elements behind the first one. -/
def behindFirst (texts : List String) : List Char := texts.flatMap fun t => ',' :: ' ' :: t.toList

theorem toList_commaSeparated (text : String) (texts : List String) :
    (Value.commaSeparated (text :: texts)).toList = text.toList ++ behindFirst texts := by
  induction texts generalizing text with
  | nil => simp [Value.commaSeparated, behindFirst]
  | cons t ts ih =>
      have hcons : Value.commaSeparated (text :: t :: ts) =
          text ++ ", " ++ Value.commaSeparated (t :: ts) := String.intercalate_cons_cons
      rw [hcons, String.toList_append, String.toList_append, ih]
      simp [behindFirst]

def PrintsItemsOnLine (vs : List Value) : Prop :=
  ∃ ts ns, ParsesFlowItems ts ns ∧ MeansItems ns vs ∧ FlowRest (behindFirst (inlineItems vs)) ts

def PrintsEntriesOnLine (seen : List String) (es : List (String × Value)) : Prop :=
  ∃ ts ns, ParsesFlowEntries ts ns ∧ MeansEntries seen ns es ∧
    FlowRest (behindFirst (inlineEntries es)) ts

/-! ## Collections -/

section Collections

variable {v : Value} {vs : List Value} {s : String} {es : List (String × Value)}
  {seen : List String}

theorem printsOnLine_sequence (h : PrintsOnLine v) (hs : PrintsItemsOnLine vs) :
    PrintsOnLine (.sequence (v :: vs)) := by
  obtain ⟨ts, hdenotes, hreads⟩ := h
  obtain ⟨n, hparses, hmeans⟩ := hdenotes .inFlow
  obtain ⟨us, ns, hitems, hmeans', hrest⟩ := hs
  refine ⟨_, fun place => ⟨_, parses_flowSequence place hparses hitems,
    (MeansItems.cons hmeans hmeans').sequence⟩, ?_⟩
  have htext : (inline (.sequence (v :: vs))).toList =
      '[' :: ((inline v).toList ++ (behindFirst (inlineItems vs) ++ [']'])) := by
    rw [inline, inlineItems, String.toList_append, String.toList_append, toList_commaSeparated]
    simp
  rw [htext]
  exact readsOnLine_of_collection (flowCollection_cons .sequence (hreads.inFlow true) hrest)

/-- The text of an entry, and its tokens. -/
theorem entryOnLine (hkey : IsWritten s ∧ (fieldText s).length ≤ 1024) (hv : PrintsOnLine v) :
    ∃ t ts, Denotes .inFlow [t] (.string s) ∧ Denotes .inFlow ts v ∧
      FlowReads true (fieldText s ++ ": " ++ inline v).toList (.key :: t :: .value :: ts) := by
  obtain ⟨⟨style, hwritten, hstring, -⟩, hlength⟩ := hkey
  obtain ⟨ts, hdenotes, hreads⟩ := hv
  have hscalar := hwritten.flowScalar
  rw [String.ofList_toList] at hscalar
  refine ⟨.scalar s style, ts, denotes_scalar (means_string hstring), hdenotes .inFlow, ?_⟩
  have hentry := hscalar.entry (by rwa [String.length_toList]) (hreads.inFlow false)
  have htext : (fieldText s ++ ": " ++ inline v).toList =
      (fieldText s).toList ++ ':' :: ' ' :: (inline v).toList := by
    rw [String.toList_append, String.toList_append]
    simp
  rw [htext]
  exact hentry

theorem printsOnLine_mapping (hkey : IsWritten s ∧ (fieldText s).length ≤ 1024)
    (hv : PrintsOnLine v) (hs : PrintsEntriesOnLine [s] es) :
    PrintsOnLine (.mapping ((s, v) :: es)) := by
  obtain ⟨t, ts, ⟨k, hparses, hmeans⟩, ⟨n, hparses', hmeans'⟩, hreads⟩ := entryOnLine hkey hv
  obtain ⟨us, ns, hentries, hmeans'', hrest⟩ := hs
  refine ⟨_, fun place => ⟨_, parses_flowMapping place hparses hparses' hentries,
    (MeansEntries.cons hmeans hmeans' (by simp) hmeans'').mapping⟩, ?_⟩
  have htext : (inline (.mapping ((s, v) :: es))).toList =
      '{' :: ((fieldText s ++ ": " ++ inline v).toList ++
        (behindFirst (inlineEntries es) ++ ['}'])) := by
    rw [inline, inlineEntries, String.toList_append, String.toList_append, toList_commaSeparated]
    simp
  rw [htext]
  exact readsOnLine_of_collection (flowCollection_cons .mapping hreads hrest)

theorem printsItemsOnLine_nil : PrintsItemsOnLine [] :=
  ⟨[], [], parsesFlowItems_nil, meansItems_nil, .nil⟩

theorem PrintsItemsOnLine.cons (h : PrintsOnLine v) (hs : PrintsItemsOnLine vs) :
    PrintsItemsOnLine (v :: vs) := by
  obtain ⟨ts, hdenotes, hreads⟩ := h
  obtain ⟨n, hparses, hmeans⟩ := hdenotes .inFlow
  obtain ⟨us, ns, hitems, hmeans', hrest⟩ := hs
  exact ⟨_, _, .cons hparses hitems, .cons hmeans hmeans', .cons (hreads.inFlow true) hrest⟩

theorem printsEntriesOnLine_nil : PrintsEntriesOnLine seen [] :=
  ⟨[], [], parsesFlowEntries_nil, meansEntries_nil, .nil⟩

theorem PrintsEntriesOnLine.cons (hkey : IsWritten s ∧ (fieldText s).length ≤ 1024)
    (hv : PrintsOnLine v) (hseen : s ∉ seen) (hs : PrintsEntriesOnLine (s :: seen) es) :
    PrintsEntriesOnLine seen ((s, v) :: es) := by
  obtain ⟨t, ts, ⟨k, hparses, hmeans⟩, ⟨n, hparses', hmeans'⟩, hreads⟩ := entryOnLine hkey hv
  obtain ⟨us, ns, hentries, hmeans'', hrest⟩ := hs
  exact ⟨_, _, .cons hparses hparses' hentries, .cons hmeans hmeans' hseen hmeans'',
    FlowRest.cons hreads hrest⟩

end Collections

mutual

theorem printsOnLine : ∀ {v : Value}, v.Fulfils onOneLine → v.Ordered → PrintsOnLine v
  | .null, _, _ =>
      printsOnLine_plain rfl (isPlainScalar_word (by decide) (by decide) true) rfl
  | .bool true, _, _ =>
      printsOnLine_plain rfl (isPlainScalar_word (by decide) (by decide) true) rfl
  | .bool false, _, _ =>
      printsOnLine_plain rfl (isPlainScalar_word (by decide) (by decide) true) rfl
  | .number n, h, _ => by
      have hn : NumberReads (numberText n) n := h
      have hdata : (resolve (numberText n).toList).data?
          (String.ofList (numberText n).toList) = some (toData (.number n)) := by
        rw [hn.resolves]
        rfl
      exact printsOnLine_plain rfl hn.scalar hdata
  | .string s, h, _ => by
      obtain ⟨style, hwritten, hstring, -⟩ : IsWritten s := h
      have hreads := hwritten.readsOnLine
      rw [String.ofList_toList] at hreads
      exact ⟨_, fun place => denotes_scalar (means_string hstring), hreads⟩
  | .sequence [], _, _ =>
      ⟨_, denotes_emptySequence, readsOnLine_of_collection (flowCollection_nil .sequence)⟩
  | .mapping [], _, _ =>
      ⟨_, denotes_emptyMapping, readsOnLine_of_collection (flowCollection_nil .mapping)⟩
  | .sequence (v :: vs), h, hord =>
      printsOnLine_sequence (printsOnLine h.1 hord.1) (printsItemsOnLine h.2 hord.2)
  | .mapping ((s, v) :: es), h, hord =>
      printsOnLine_mapping h.1 (printsOnLine h.2.1 hord.2.1)
        (printsEntriesOnLine h.2.2 hord.2.2 (fresh_nil hord.1).tail.2)

theorem printsItemsOnLine : ∀ {vs : List Value},
    Value.FulfilsItems onOneLine vs → Value.OrderedItems vs → PrintsItemsOnLine vs
  | [], _, _ => printsItemsOnLine_nil
  | _ :: _, h, hord => .cons (printsOnLine h.1 hord.1) (printsItemsOnLine h.2 hord.2)

theorem printsEntriesOnLine : ∀ {es : List (String × Value)} {seen : List String},
    Value.FulfilsEntries onOneLine es → Value.OrderedEntries es → Fresh seen es →
      PrintsEntriesOnLine seen es
  | [], _, _, _, _ => printsEntriesOnLine_nil
  | (_, _) :: _, _, h, hord, hfresh =>
      .cons h.1 (printsOnLine h.2.1 hord.1) hfresh.tail.1
        (printsEntriesOnLine h.2.2 hord.2 hfresh.tail.2)

end

end WorkItems.FrontMatter
