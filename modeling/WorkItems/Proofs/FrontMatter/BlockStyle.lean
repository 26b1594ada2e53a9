import WorkItems.Proofs.FrontMatter.PrintedLines
import WorkItems.Proofs.FrontMatter.Values
/-!
# Values in block style

A value in block style is read as it was. What is printed in a column is moved two columns to the
right before it is read, so the texts in block style here are those that are printed (`MovedBehind`,
`MovedLines`), and are read as block style where they are moved to. That is a way to read block
style (`movedReading`), so the texts of whole values need no proof of their own.
-/

namespace WorkItems.FrontMatter

open Yaml Yaml.Lexer

/-- Printed behind an indicator at a spot, the text is read as these tokens once it is moved. -/
structure MovedBehind (spot : Spot) (printed : List Char) (ts : List Token) : Prop where
  whole : WholeLines printed
  reads : ReadsBehind { spot with indent := spot.indent + 2 } (moved false printed) ts

/-- Printed in a column, the lines are read as these tokens once they are moved. -/
structure MovedLines (t : Token) (column : Nat) (printed : List Char) (ts : List Token) : Prop where
  whole : WholeLines printed
  starts : StartsToken printed
  reads : ReadsLines t (column + 2) (moved false printed) ts

/-! ## Behind an indicator -/

theorem EndsPrinted.movedBehind {spot : Spot} {printed : List Char} {ts : List Token}
    (h : EndsPrinted spot.indent printed ts) :
    MovedBehind spot (terminated (' ' :: printed)) ts := by
  obtain ⟨text, htext, hends⟩ := h.reads
  refine ⟨h.whole, ?_⟩
  rw [htext]
  exact EndsLine.readsBehind { spot with indent := spot.indent + 2 } hends

theorem moved_pad (column : Nat) {lines : List Char} (h : StartsToken lines) :
    moved true (pad column ++ lines) = pad (column + 2) ++ moved false lines := by
  obtain ⟨c, cs, rfl, -, -⟩ := h
  exact moved_replicate column c cs

theorem wholeLines_nextLine {column : Nat} {lines : List Char} (h : WholeLines lines) :
    WholeLines ('\n' :: (pad column ++ lines)) :=
  WholeLines.append ('\n' :: pad column)
    (List.forall_mem_cons.2 ⟨by decide, isPrintable_pad column⟩) h

theorem moved_nextLine {column : Nat} {lines : List Char} (h : StartsToken lines) :
    moved false ('\n' :: (pad column ++ lines)) =
      '\n' :: (pad (column + 2) ++ moved false lines) := by
  rw [moved, show ('\n' == '\n') = true from rfl, moved_pad column h]
  rfl

section MovedLines

variable {t : Token} {column : Nat} {lines : List Char} {ts : List Token} {spot : Spot}

/-- A collection that continues the line of the indicator in front of it. -/
theorem MovedLines.continued (spot : Spot) (h : MovedLines t (spot.indent + 2) lines ts)
    (hspot : spot.continuesLine = true) :
    MovedBehind spot (' ' :: lines) (t :: (ts ++ [.blockEnd])) :=
  ⟨.append [' '] (by decide) h.whole,
    h.reads.continued { spot with indent := spot.indent + 2 } hspot⟩

/-- A collection that starts on the next line, deeper than the one around it. -/
theorem MovedLines.below (spot : Spot) (h : MovedLines t (spot.indent + 2) lines ts) :
    MovedBehind spot ('\n' :: (pad (spot.indent + 2) ++ lines)) (t :: (ts ++ [.blockEnd])) :=
  ⟨wholeLines_nextLine h.whole,
    moved_nextLine h.starts ▸ h.reads.below { spot with indent := spot.indent + 2 }⟩

/-- A sequence in the column of the mapping around it. -/
theorem MovedLines.indentless (spot : Spot) (h : MovedLines t spot.indent lines ts) :
    MovedBehind spot ('\n' :: (pad spot.indent ++ lines)) ts :=
  ⟨wholeLines_nextLine h.whole,
    moved_nextLine h.starts ▸ h.reads.indentless { spot with indent := spot.indent + 2 }⟩

/-! ## Entries of a collection -/

/-- One entry below the other. -/
theorem MovedLines.append {lines' : List Char} {us : List Token} (h : MovedLines t column lines ts)
    (h' : MovedLines t column lines' us) :
    MovedLines t column (lines ++ (pad column ++ lines')) (ts ++ us) := by
  refine ⟨WholeLines.append _ h.whole.printable
    (WholeLines.append _ (isPrintable_pad column) h'.whole), h.starts.append _, ?_⟩
  rw [moved_append, h.whole.startsBehind, moved_pad column h'.starts]
  exact h.reads.append h'.reads

/-- An item of a sequence. -/
theorem MovedBehind.item {printed : List Char} (h : MovedBehind ⟨column, true, false⟩ printed ts) :
    MovedLines .blockSequenceStart column ('-' :: printed) (.blockEntry :: ts) :=
  ⟨.append ['-'] (by decide) h.whole, ⟨'-', _, rfl, by decide, by decide⟩, h.reads.item⟩

/-- An entry of a mapping with its key in front of the colon. -/
theorem MovedBehind.entry {printed key : List Char} {us : List Token}
    (hkey : IsSimpleKey 1024 key us) (h : MovedBehind ⟨column, false, true⟩ printed ts) :
    MovedLines .blockMappingStart column (key ++ ':' :: printed)
      (.key :: (us ++ .value :: ts)) := by
  have hfeed : '\n' ∉ key := fun hmem => absurd (hkey.inLine _ hmem).noBreak (by decide)
  refine ⟨WholeLines.append _ (fun c hc => (hkey.inLine c hc).printable)
    (WholeLines.append [':'] (by decide) h.whole), hkey.starts.append _, ?_⟩
  rw [moved_append, moved_false hfeed, startsBehind_false hfeed]
  exact h.reads.entry hkey.isKey hkey.starts hkey.length

/-- An entry of a mapping with its key behind a question mark. -/
theorem MovedBehind.explicitEntry {printed key : List Char} {us : List Token}
    (hkey : MovedBehind ⟨column, true, true⟩ key us)
    (h : MovedBehind ⟨column, true, true⟩ printed ts) :
    MovedLines .blockMappingStart column ('?' :: (key ++ (pad column ++ ':' :: printed)))
      (.key :: (us ++ .value :: ts)) := by
  have hcolon : StartsToken (':' :: printed) := ⟨':', _, rfl, by decide, by decide, by decide⟩
  have hmoved : moved false ('?' :: (key ++ (pad column ++ ':' :: printed))) =
      '?' :: (moved false key ++ (pad (column + 2) ++ ':' :: moved false printed)) := by
    rw [moved, show ('?' == '\n') = false from rfl, moved_append, hkey.whole.startsBehind,
      moved_pad column hcolon]
    rfl
  refine ⟨WholeLines.append ['?'] (by decide) (WholeLines.append _ hkey.whole.printable
    (WholeLines.append _ (isPrintable_pad column) (WholeLines.append [':'] (by decide) h.whole))),
    ⟨'?', _, rfl, by decide, by decide⟩, ?_⟩
  rw [hmoved]
  exact hkey.reads.explicitEntry h.reads

/-- A tag on the rest of a line, in front of a collection that starts on the next one. -/
theorem MovedBehind.tagged {text : List Char} {tag : String} (spot : Spot)
    (h : MovedBehind { spot with continuesLine := false } ('\n' :: text) ts)
    (htag : IsWritable tag) :
    MovedBehind spot (' ' :: (writtenTag tag ++ '\n' :: text)) (.tag "!" tag :: ts) := by
  have hline : ∀ c ∈ ' ' :: writtenTag tag, IsInLine c :=
    List.forall_mem_cons.2 ⟨by decide, isInLine_writtenTag htag⟩
  have hfeed : '\n' ∉ ' ' :: writtenTag tag := fun hmem => absurd (hline _ hmem).noBreak (by decide)
  refine ⟨WholeLines.append (' ' :: writtenTag tag) (fun c hc => (hline c hc).printable) h.whole,
    ?_⟩
  rw [← List.cons_append, moved_append, moved_false hfeed, startsBehind_false hfeed]
  exact ReadsBehind.tagged h.reads htag

end MovedLines

/-- What is printed in block style is read as block style where it is moved to. -/
def movedReading : BlockReading where
  Behind := MovedBehind
  Lines := MovedLines
  continued spot h := h.continued spot
  below spot h := h.below spot
  indentless spot h := h.indentless spot
  append h h' := h.append h'
  item h := h.item
  entry hkey h := h.entry hkey
  explicitEntry hkey h := hkey.explicitEntry h
  tagged spot h := h.tagged spot

/-! ## Values -/

/-- What the block style asks of the parts of a value. -/
def inBlockStyle : Value.Condition where
  text s := NoSeparator s.toList
  key s := NoSeparator s.toList
  number n := NumberReads (Yaml.numberText n) n

mutual

theorem movable_toData : ∀ {v : Value}, v.Fulfils inBlockStyle → (toData v).Fulfils movable
  | .null, _ => .null
  | .bool _, _ => .bool
  | .number _, _ => .number trivial
  | .string _, h => .string h
  | .sequence _, h => .sequence (movable_toDataItems h)
  | .mapping _, h =>
      .mapping (fun e he => (movable_toDataEntries h e he).1) fun e he =>
        (movable_toDataEntries h e he).2

theorem movable_toDataItems : ∀ {vs : List Value}, Value.FulfilsItems inBlockStyle vs →
    ∀ d ∈ toDataItems vs, d.Fulfils movable
  | [], _ => nofun
  | _ :: _, h => List.forall_mem_cons.2 ⟨movable_toData h.1, movable_toDataItems h.2⟩

theorem movable_toDataEntries : ∀ {es : List (String × Value)},
    Value.FulfilsEntries inBlockStyle es →
      ∀ e ∈ toDataEntries es, e.1.Fulfils movable ∧ e.2.Fulfils movable
  | [], _ => nofun
  | _ :: _, h => List.forall_mem_cons.2
      ⟨⟨.string h.1, movable_toData h.2.1⟩, movable_toDataEntries h.2.2⟩

end

mutual

/-- The node that a value is printed as stands for the value. -/
theorem means_written : ∀ {v : Value}, v.Fulfils inBlockStyle → v.Ordered →
    Means (toData v).written v
  | .null, _, _ => means_plain rfl
  | .bool true, _, _ => means_plain rfl
  | .bool false, _, _ => means_plain rfl
  | .number n, h, _ =>
      have hn : NumberReads (Yaml.numberText n) n := h
      means_plain (by rw [hn.resolves]; rfl)
  | .string s, _, _ => fun _ _ => says_styleOf s
  | .sequence _, h, hord => (meansItems_written h hord).sequence
  | .mapping _, h, hord => (meansEntries_written h hord.2 (fresh_nil hord.1)).mapping

theorem meansItems_written : ∀ {vs : List Value}, Value.FulfilsItems inBlockStyle vs →
    Value.OrderedItems vs → MeansItems (Data.writtenItems (toDataItems vs)) vs
  | [], _, _ => meansItems_nil
  | _ :: _, h, hord => .cons (means_written h.1 hord.1) (meansItems_written h.2 hord.2)

theorem meansEntries_written : ∀ {es : List (String × Value)} {seen : List String},
    Value.FulfilsEntries inBlockStyle es → Value.OrderedEntries es → Fresh seen es →
      MeansEntries seen (Data.writtenEntries (toDataEntries es)) es
  | [], _, _, _, _ => meansEntries_nil
  | (s, _) :: _, _, h, hord, hfresh =>
      .cons (fun _ _ => says_styleOf s) (means_written h.2.1 hord.1) hfresh.tail.1
        (meansEntries_written h.2.2 hord.2 hfresh.tail.2)

end

theorem writes_moved_of_line {d : Data} (h : d.Fulfils movable) (hblock : d.isBlock = false) :
    movedReading.Writes d := by
  intro spot
  obtain ⟨hparses, hstarts⟩ := parses_lineTokens spot.place (writable_of_movable h) hblock
  refine ⟨_, hparses, hstarts, ?_⟩
  rw [BlockReading.behind_of_line hblock]
  exact (endsPrinted_lineText h hblock spot.indent).movedBehind

theorem writes_moved {d : Data} (h : d.Fulfils movable) : movedReading.Writes d := by
  have htag : ∀ tag d, movable.tag tag d → IsWritable tag ∧ d.isTagged = false :=
    fun _ _ htag => htag.elim
  exact BlockReading.behind htag (fun _ => writes_moved_of_line)
    (fun _ hkey => writesKey (writable_of_movable hkey)) h

/-- The lines of a mapping with elements are read as its entries. -/
theorem writesEntries_moved {es : List (String × Value)} (h : Value.FulfilsEntries inBlockStyle es)
    (hne : es ≠ []) (column : Nat) :
    movedReading.WritesEntries column (toDataEntries es) := by
  have hparts := movable_toDataEntries h
  refine BlockReading.writesEntries (fun e he => writesKey (writable_of_movable (hparts e he).1))
    (fun e he => writes_moved (hparts e he).1) (fun e he => writes_moved (hparts e he).2) ?_
  cases es with
  | nil => exact absurd rfl hne
  | cons e es => exact List.cons_ne_nil _ _

end WorkItems.FrontMatter
