import WorkItems.Proofs.Yaml.BlockData
import WorkItems.Proofs.Yaml.Flow
import WorkItems.Proofs.Yaml.NumberTexts
import WorkItems.Proofs.Yaml.TopLevel
/-!
# Printed data

A mapping is printed as a document that holds its node and nothing else. Any text and any number may
be in it. Only tags have to be writable.
-/

namespace WorkItems.Yaml

open Lexer

/-- Parts of data that are printed so that their tokens are read. Nothing may have two tags. -/
def writable : Data.Condition where
  number _ := True
  text _ := True
  tag tag d := IsWritable tag ∧ d.isTagged = false

/-! ## Plain texts -/

/-- A text that is printed as a plain scalar, whatever stands in front of it. -/
structure IsPlainText (text : String) : Prop where
  scalar : IsPlainScalar false text.toList
  marker : atMarker text.toList = false
  printable : ∀ c ∈ text.toList, isPrintable c = true

theorem isPlainText_word {text : String} (h : ∀ c ∈ text.toList, c.isAlphanum = true)
    (hne : text.toList ≠ []) (hprint : ∀ c ∈ text.toList, isPrintable c = true) :
    IsPlainText text :=
  ⟨isPlainScalar_word h hne false, atMarker_word h, hprint⟩

theorem isPlainText_null : IsPlainText "null" :=
  isPlainText_word (by decide) (by decide) (by decide)

theorem isPlainText_bool (b : Bool) : IsPlainText (if b then "true" else "false") := by
  cases b with
  | true => exact isPlainText_word (by decide) (by decide) (by decide)
  | false => exact isPlainText_word (by decide) (by decide) (by decide)

theorem isPlainText_number (n : Number) : IsPlainText (numberText n) :=
  ⟨isPlainScalar_numberText n false, atMarker_numberText n,
    fun c hc => (isNumeral_numberText n c hc).printable⟩

section IsPlainText

variable {text : String}

theorem IsPlainText.inLine (h : IsPlainText text) : ∀ c ∈ text.toList, IsInLine c :=
  fun c hc => ⟨h.printable c hc, h.scalar.noBreak c hc⟩

theorem IsPlainText.ne_nil (h : IsPlainText text) : text.toList ≠ [] := by
  obtain ⟨c, cs, htext, -⟩ := h.scalar.start
  exact htext ▸ List.cons_ne_nil c cs

theorem IsPlainText.starts (h : IsPlainText text) : StartsToken text.toList :=
  h.scalar.starts.startsToken (head?_ne_mark h.inLine)

theorem IsPlainText.endsLine (h : IsPlainText text) (parent : Nat) :
    EndsLine parent (terminated text.toList) [.scalar text .plain] := by
  obtain ⟨front, c, htext⟩ : ∃ front c, text.toList = front ++ [c] :=
    ⟨_, _, (List.dropLast_concat_getLast h.ne_nil).symm⟩
  have hbreak := h.scalar.noBreak c (htext ▸ List.mem_append_right _ (List.mem_singleton_self c))
  have hline : terminated text.toList = text.toList ++ ['\n'] := by
    rw [htext, terminated_of_last hbreak]
  have hends := h.scalar.endsLine parent
  rwa [String.ofList_toList, ← hline] at hends

end IsPlainText

/-! ## Data on a line -/

/-- The tokens of data that stands on a line. -/
def Data.lineTokens : Data → List Token
  | .null => [.scalar "null" .plain]
  | .bool b => [.scalar (if b then "true" else "false") .plain]
  | .number n => [.scalar (numberText n) .plain]
  | .string s => [.scalar s (styleOf s.toList)]
  | .sequence _ => [.flowSequenceStart, .flowSequenceEnd]
  | .mapping _ => [.flowMappingStart, .flowMappingEnd]
  | .tagged tag d => .tag "!" tag :: d.lineTokens

section Lines

variable {d : Data}

theorem IsWritable.ne_empty {tag : String} (h : IsWritable tag) : tag ≠ "" := by
  rintro rfl
  exact h.ne_nil rfl

theorem parses_lineTokens (place : Place) (h : d.Fulfils writable) (hblock : d.isBlock = false) :
    Parses place d.lineTokens d.written ∧ (d.isTagged = false → StartsContent d.lineTokens) := by
  induction h with
  | null => exact ⟨parses_scalar .., fun _ => ⟨_, _, rfl, .inl rfl⟩⟩
  | bool => exact ⟨parses_scalar .., fun _ => ⟨_, _, rfl, .inl rfl⟩⟩
  | number _ => exact ⟨parses_scalar .., fun _ => ⟨_, _, rfl, .inl rfl⟩⟩
  | string _ => exact ⟨parses_scalar .., fun _ => ⟨_, _, rfl, .inl rfl⟩⟩
  | @sequence ds _ _ =>
      cases ds with
      | nil => exact ⟨parses_emptyFlowSequence place, fun _ => ⟨_, _, rfl, .inl rfl⟩⟩
      | cons _ _ => cases hblock
  | @mapping es _ _ _ _ =>
      cases es with
      | nil => exact ⟨parses_emptyFlowMapping place, fun _ => ⟨_, _, rfl, .inl rfl⟩⟩
      | cons _ _ => cases hblock
  | tagged h _ ih =>
      obtain ⟨htag, htagged⟩ := h
      obtain ⟨hparses, hstarts⟩ := ih hblock
      obtain ⟨t, ts, hts, hfirst⟩ := hstarts htagged
      rw [hts] at hparses
      rw [Data.lineTokens, hts]
      exact ⟨hparses.tagged hfirst htag.ne_empty, fun he => nomatch he⟩

theorem isPrintable_lineText (indent : Nat) (h : d.Fulfils writable) :
    ∀ c ∈ d.lineText indent, isPrintable c = true := by
  induction h with
  | null => exact isPlainText_null.printable
  | bool => exact (isPlainText_bool _).printable
  | number _ => exact (isPlainText_number _).printable
  | string _ => exact isPrintable_stringText indent _
  | sequence _ _ => exact (by decide : ∀ c ∈ "[]".toList, isPrintable c = true)
  | mapping _ _ _ _ => exact (by decide : ∀ c ∈ "\x7b\x7d".toList, isPrintable c = true)
  | tagged htag _ ih =>
      exact List.forall_mem_append.2 ⟨fun c hc => (isInLine_writtenTag htag.1 c hc).printable,
        List.forall_mem_cons.2 ⟨by decide, ih⟩⟩

theorem lineText_ne_nil {parent : Nat} {ts : List Token}
    (h : EndsLine parent (terminated (d.lineText (parent + 2))) ts) :
    d.lineText (parent + 2) ≠ [] := by
  intro hnil
  obtain ⟨c, cs, hcs, hgap, -⟩ := h.starts
  rw [hnil] at hcs
  cases hcs
  exact absurd hgap (by decide)

/-- What is the last thing of its line. -/
theorem endsLine_lineText (parent : Nat) (h : d.Fulfils writable) (hblock : d.isBlock = false) :
    EndsLine parent (terminated (d.lineText (parent + 2))) d.lineTokens := by
  induction h with
  | null => exact isPlainText_null.endsLine parent
  | bool => exact (isPlainText_bool _).endsLine parent
  | number _ => exact (isPlainText_number _).endsLine parent
  | @string s _ =>
      have hline := endsLine_stringText parent s.toList
      rwa [String.ofList_toList] at hline
  | @sequence ds _ _ =>
      cases ds with
      | nil => exact (flowCollection_nil .sequence).endsLine parent
      | cons _ _ => cases hblock
  | @mapping es _ _ _ _ =>
      cases es with
      | nil => exact (flowCollection_nil .mapping).endsLine parent
      | cons _ _ => cases hblock
  | @tagged tag d h _ ih =>
      have htag : IsWritable tag := h.1
      have hline := ih hblock
      have hne := lineText_ne_nil hline
      have htext : terminated (writtenTag tag ++ ' ' :: d.lineText (parent + 2)) =
          writtenTag tag ++ ' ' :: terminated (d.lineText (parent + 2)) := by
        rw [terminated_append _ (List.cons_ne_nil _ _)]
        exact congrArg _ (terminated_append [' '] hne)
      rw [Data.lineText, htext]
      exact hline.tagged htag

/-! ## Keys -/

theorem IsPlainText.isSimpleKey {text : String} (h : IsPlainText text) {n : Nat}
    (hlength : byteCount text.toList = n) :
    IsSimpleKey (6 * n + 2) text.toList [.scalar text .plain] := by
  have hkey := IsPlainScalar.isKey h.scalar h.marker
  have hbytes := length_le_utf8ByteSize text.toList
  rw [String.ofList_toList] at hkey
  rw [byteCount] at hlength
  exact ⟨hkey, h.starts, h.inLine, by omega⟩

theorem isSimpleKey_emptyCollection (kind : FlowKind) (n : Nat) :
    IsSimpleKey (6 * n + 2) [kind.opening, kind.closing] [kind.start, kind.finish] where
  isKey := isKey_emptyCollection kind
  starts := startsToken_opening kind _
  inLine := by cases kind <;> decide
  length := Nat.le_add_left 2 (6 * n)

/-- A string without line breaks is a key. -/
theorem printedLine_key {s : String} (hline : isMultiline s.toList = false) (indent : Nat) :
    PrintedLine s.toList (styleOf s.toList) (stringText indent s.toList) := by
  have hbreak : ∀ c ∈ s.toList, isBreak c = false := by
    simpa [isMultiline] using hline
  refine printedLine_of_styleOf (fun c hc => ⟨?_, ?_⟩) (fun hmem => ?_) indent
  · rintro rfl
    exact absurd (hbreak _ hc) (by decide)
  · rintro rfl
    exact absurd (hbreak _ hc) (by decide)
  · exact absurd (hbreak _ hmem) (by decide)

theorem IsSimpleKey.tagged {text : List Char} {ts : List Token} {tag : String} {n : Nat}
    (h : IsSimpleKey (6 * n + 2) text ts) (htag : IsWritable tag) :
    IsSimpleKey (6 * (byteCount ('!' :: tagBody tag) + n) + 2) (writtenTag tag ++ ' ' :: text)
      (.tag "!" tag :: ts) where
  isKey := h.isKey.tagged h.starts.inLine htag
  starts := (startsToken_writtenTag htag).append _
  inLine := List.forall_mem_append.2 ⟨isInLine_writtenTag htag,
    List.forall_mem_cons.2 ⟨by decide, h.inLine⟩⟩
  length := by
    have htext := h.length
    have htags := length_writtenTag htag
    have hmark : 0 < byteCount ('!' :: tagBody tag) :=
      Nat.lt_of_lt_of_le (Nat.succ_pos _) (length_le_utf8ByteSize ('!' :: tagBody tag))
    rw [List.length_append, List.length_cons]
    omega

/-- What stands in front of a colon. -/
theorem isSimpleKey_lineText {n : Nat} (indent : Nat) (h : d.Fulfils writable)
    (hlength : d.keyLength? = some n) :
    IsSimpleKey (6 * n + 2) (d.lineText indent) d.lineTokens := by
  induction h generalizing n with
  | null => exact isPlainText_null.isSimpleKey (Option.some.inj hlength)
  | bool => exact (isPlainText_bool _).isSimpleKey (Option.some.inj hlength)
  | number _ => exact (isPlainText_number _).isSimpleKey (Option.some.inj hlength)
  | @string s _ =>
      rw [Data.keyLength?] at hlength
      split at hlength
      · cases hlength
      · rename_i hmulti
        obtain rfl := Option.some.inj hlength
        have hprinted := printedLine_key (Bool.eq_false_iff.2 hmulti) indent
        have hkey := hprinted.isKey
        have hle := hprinted.length_le
        rw [String.ofList_toList] at hkey hle
        exact ⟨hkey, hprinted.starts, hprinted.inLine, hle⟩
  | @sequence ds _ _ =>
      cases ds with
      | nil => exact isSimpleKey_emptyCollection .sequence n
      | cons _ _ => cases hlength
  | @mapping es _ _ _ _ =>
      cases es with
      | nil => exact isSimpleKey_emptyCollection .mapping n
      | cons _ _ => cases hlength
  | tagged htag _ ih =>
      obtain ⟨m, hm, rfl⟩ := Option.map_eq_some_iff.1 hlength
      exact (ih hm).tagged htag.1

end Lines

/-! ## Block style -/

/-- A text that is printed, and what it is read as. -/
structure IsPrinted (text : List Char) (reads : Prop) : Prop where
  printable : ∀ c ∈ text, isPrintable c = true
  reads : reads

theorem IsPrinted.append {text text' : List Char} {p q r : Prop} (h : IsPrinted text p)
    (h' : IsPrinted text' q) (hreads : p → q → r) : IsPrinted (text ++ text') r :=
  ⟨List.forall_mem_append.2 ⟨h.printable, h'.printable⟩, hreads h.reads h'.reads⟩

theorem IsPrinted.behind {text : List Char} {p q : Prop} (front : List Char)
    (hfront : ∀ c ∈ front, isPrintable c = true) (h : IsPrinted text p) (hreads : p → q) :
    IsPrinted (front ++ text) q :=
  ⟨List.forall_mem_append.2 ⟨hfront, h.printable⟩, hreads h.reads⟩

theorem isPrintable_nextLine (column : Nat) : ∀ c ∈ '\n' :: pad column, isPrintable c = true :=
  List.forall_mem_cons.2 ⟨by decide, isPrintable_pad column⟩

/-- What is printed in block style is read as block style where it stands. -/
def BlockReading.printed : BlockReading where
  Behind spot text ts := IsPrinted text (ReadsBehind spot text ts)
  Lines t column text ts := IsPrinted text (ReadsLines t column text ts)
  continued spot h hspot := h.behind [' '] (by decide) fun hlines => hlines.continued spot hspot
  below spot h := h.behind _ (isPrintable_nextLine _) fun hlines => hlines.below spot
  indentless spot h := h.behind _ (isPrintable_nextLine _) fun hlines => hlines.indentless spot
  append h h' := h.append (h'.behind _ (isPrintable_pad _) id) fun hlines => hlines.append
  item h := h.behind ['-'] (by decide) fun hbehind => hbehind.item
  entry hkey h :=
    (h.behind [':'] (by decide) id).behind _ (fun c hc => (hkey.inLine c hc).printable)
    fun hbehind => hbehind.entry hkey.isKey hkey.starts hkey.length
  explicitEntry hkey h :=
    (hkey.append ((h.behind [':'] (by decide) id).behind _ (isPrintable_pad _) id)
      fun hkey hbehind => hkey.explicitEntry hbehind).behind ['?'] (by decide) id
  tagged spot h htag :=
    (h.behind _ (fun c hc => (isInLine_writtenTag htag c hc).printable) id).behind [' '] (by decide)
      fun hbehind => hbehind.tagged htag

section Printed

variable {d : Data}

theorem isPrintable_terminated {cs : List Char} (h : ∀ c ∈ cs, isPrintable c = true) :
    ∀ c ∈ terminated cs, isPrintable c = true := by
  rw [terminated]
  split
  · exact h
  · exact List.forall_mem_append.2 ⟨h, by decide⟩

theorem writes_of_line (h : d.Fulfils writable) (hblock : d.isBlock = false) :
    BlockReading.printed.Writes d := by
  intro spot
  obtain ⟨hparses, hstarts⟩ := parses_lineTokens spot.place h hblock
  have hends := endsLine_lineText spot.indent h hblock
  refine ⟨_, hparses, hstarts, ?_⟩
  rw [BlockReading.behind_of_line hblock]
  refine ⟨isPrintable_terminated (List.forall_mem_cons.2 ⟨by decide, isPrintable_lineText _ h⟩), ?_⟩
  rw [show ' ' :: d.lineText (spot.indent + 2) = [' '] ++ d.lineText (spot.indent + 2) from rfl,
    terminated_append _ (lineText_ne_nil hends)]
  exact hends.readsBehind spot

theorem isBlock_of_keyLength? {n : Nat} (h : d.Fulfils writable) (hlength : d.keyLength? = some n) :
    d.isBlock = false := by
  induction h generalizing n with
  | @sequence ds _ _ => cases ds <;> first | rfl | cases hlength
  | @mapping es _ _ _ _ => cases es <;> first | rfl | cases hlength
  | tagged _ _ ih =>
      obtain ⟨m, hm, -⟩ := Option.map_eq_some_iff.1 hlength
      exact ih hm
  | _ => rfl

/-- A key is written in front of the colon if it is short enough. -/
theorem writesKey (h : d.Fulfils writable) (hsimple : d.isSimpleKey = true) : WritesKey d := by
  rw [Data.isSimpleKey] at hsimple
  obtain ⟨n, hlength⟩ : ∃ n, d.keyLength? = some n := by
    cases hlength : d.keyLength? with
    | none => simp [hlength] at hsimple
    | some n => exact ⟨n, rfl⟩
  have hn : n ≤ 128 := by simpa [hlength] using hsimple
  intro column
  have hkey := isSimpleKey_lineText (column + 2) h hlength
  exact ⟨_, (parses_lineTokens .entry h (isBlock_of_keyLength? h hlength)).1,
    { hkey with length := Nat.le_trans hkey.length (by omega) }⟩

theorem writes_printed (h : d.Fulfils writable) : BlockReading.printed.Writes d :=
  BlockReading.behind (fun _ _ htag => htag) (fun _ => writes_of_line) (fun _ => writesKey) h

/-- A mapping with elements is printed as the document of its node. -/
theorem documentOfText_render {e : Data × Data} {es : List (Data × Data)}
    (h : (Data.mapping (e :: es)).Fulfils writable) :
    Document.ofText (Data.mapping (e :: es)).render =
      .ok ⟨some (Data.mapping (e :: es)).written, (Data.mapping (e :: es)).written.anchored,
        (Data.mapping (e :: es)).written.eventCount⟩ := by
  obtain ⟨hkeys, hvalues⟩ : (∀ f ∈ e :: es, f.1.Fulfils writable) ∧
      ∀ f ∈ e :: es, f.2.Fulfils writable := by
    cases h with
    | mapping hkeys hvalues => exact ⟨hkeys, hvalues⟩
  obtain ⟨ts, hentries, hprinted⟩ := @BlockReading.writesEntries _ 0 _
    (fun f hf => writesKey (hkeys f hf)) (fun f hf => writes_printed (hkeys f hf))
    (fun f hf => writes_printed (hvalues f hf)) (List.cons_ne_nil e es)
  have htext : (Data.mapping (e :: es)).render.toList = Data.entryLines 0 true (e :: es) := by
    rw [Data.render, String.toList_ofList]
  rw [← htext] at hprinted
  exact documentOfText_eq (parses_blockMapping rfl hentries) <| tokens_entries hprinted.reads
    fun c hc => isAllowed_of_isPrintable (hprinted.printable c hc)

end Printed

end WorkItems.Yaml
