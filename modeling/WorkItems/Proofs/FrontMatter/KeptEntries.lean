import WorkItems.Proofs.FrontMatter.Parsed
import WorkItems.Proofs.Yaml.NodeReadings
/-!
# The entries that reading keeps

Keys of data become texts, so keys that differ may meet in one text: the number `1` and the text
`"1"`, null and `"null"`, a text with a tag and the same without. Of entries that meet the last one
stays. An item therefore has all entries of its front matter exactly if the texts of the keys
differ, and so at every mapping further inside. Keys that are texts never meet, because no key comes
twice, and nothing ever meets one of the five fields.
-/

namespace WorkItems

/-! ## The number of entries -/

namespace Value

mutual

/-- How many entries the mappings in a value have. -/
def entryCount : Value → Nat
  | sequence items => entryCountItems items
  | mapping entries => entryCountEntries entries
  | _ => 0

def entryCountItems : List Value → Nat
  | [] => 0
  | v :: vs => v.entryCount + entryCountItems vs

def entryCountEntries : List (String × Value) → Nat
  | [] => 0
  | (_, v) :: es => v.entryCount + 1 + entryCountEntries es

end

theorem entryCountEntries_eq (es : List (String × Value)) :
    entryCountEntries es = (es.map fun e => e.2.entryCount + 1).sum := by
  induction es with
  | nil => rfl
  | cons e es ih => rw [entryCountEntries, ih, List.map_cons, List.sum_cons]

end Value

namespace Yaml.Data

mutual

/-- How many entries the mappings in data have. Inside of keys nothing counts. -/
def entryCount : Data → Nat
  | sequence items => entryCountItems items
  | mapping entries => entryCountEntries entries
  | tagged _ content => content.entryCount
  | _ => 0

def entryCountItems : List Data → Nat
  | [] => 0
  | d :: ds => d.entryCount + entryCountItems ds

def entryCountEntries : List (Data × Data) → Nat
  | [] => 0
  | (_, d) :: es => d.entryCount + 1 + entryCountEntries es

end

mutual

/-- The entries of every mapping in the data have a property. -/
def EveryMapping (P : List (Data × Data) → Prop) : Data → Prop
  | sequence items => EveryMappingItems P items
  | mapping entries => P entries ∧ EveryMappingEntries P entries
  | tagged _ content => content.EveryMapping P
  | _ => True

def EveryMappingItems (P : List (Data × Data) → Prop) : List Data → Prop
  | [] => True
  | d :: ds => d.EveryMapping P ∧ EveryMappingItems P ds

def EveryMappingEntries (P : List (Data × Data) → Prop) : List (Data × Data) → Prop
  | [] => True
  | (_, d) :: es => d.EveryMapping P ∧ EveryMappingEntries P es

end

theorem everyMappingItems_iff {P : List (Data × Data) → Prop} {ds : List Data} :
    EveryMappingItems P ds ↔ ∀ d ∈ ds, d.EveryMapping P := by
  induction ds with
  | nil => simp [EveryMappingItems]
  | cons d ds ih => rw [EveryMappingItems, ih, List.forall_mem_cons]

theorem everyMappingEntries_iff {P : List (Data × Data) → Prop} {es : List (Data × Data)} :
    EveryMappingEntries P es ↔ ∀ e ∈ es, e.2.EveryMapping P := by
  induction es with
  | nil => simp [EveryMappingEntries]
  | cons e es ih => rw [EveryMappingEntries, ih, List.forall_mem_cons]

end Yaml.Data

namespace FrontMatter

open Yaml

/-! ## Keys as texts -/

/-- The texts that the keys of entries become. -/
def keyTexts (es : List (Data × Data)) : List String := es.map fun e => (ofData e.1).display

/-- Keys that stay apart as texts. -/
def KeysApart (es : List (Data × Data)) : Prop := (keyTexts es).Nodup

/-- Keys that are texts already. -/
def AreTexts (es : List (Data × Data)) : Prop := ∀ e ∈ es, ∃ s, e.1 = .string s

theorem ofDataEntries_eq (es : List (Data × Data)) :
    ofDataEntries es = es.map fun e => ((ofData e.1).display, ofData e.2) := by
  induction es with
  | nil => rfl
  | cons e es ih => rw [ofDataEntries, ih, List.map_cons]

theorem map_ofDataEntries (es : List (Data × Data)) :
    (ofDataEntries es).map (·.1) = keyTexts es := by
  rw [ofDataEntries_eq, List.map_map]
  rfl

/-- Different keys that are texts are different texts. -/
theorem keysApart_of_areTexts {es : List (Data × Data)} (h : KeysDiffer es) (htexts : AreTexts es) :
    KeysApart es := by
  rw [KeysApart, keyTexts, List.Nodup, List.pairwise_map]
  refine h.imp_of_mem fun {e f} he hf hne => ?_
  obtain ⟨s, hs⟩ := htexts e he
  obtain ⟨t, ht⟩ := htexts f hf
  rw [hs, ht, sameKey_string, beq_eq_false_iff_ne] at hne
  rw [hs, ht]
  exact hne

theorem everyMapping_keysApart {depth : Nat} {d : Data} (h : IsRead depth d)
    (htexts : d.EveryMapping AreTexts) : d.EveryMapping KeysApart := by
  induction h with
  | null => trivial
  | bool => trivial
  | number _ => trivial
  | string => trivial
  | tagged _ _ ih => exact ih htexts
  | sequence _ ih =>
      have hitems := Data.everyMappingItems_iff.1 htexts
      exact Data.everyMappingItems_iff.2 fun d hd => ih d hd (hitems d hd)
  | mapping hdiffer _ _ _ ih =>
      have hentries := Data.everyMappingEntries_iff.1 htexts.2
      exact ⟨keysApart_of_areTexts hdiffer htexts.1,
        Data.everyMappingEntries_iff.2 fun e he => ih e he (hentries e he)⟩

/-! ## Entries that are lost -/

/-- Positive numbers have the sum of some of them only if these are all. -/
theorem sum_eq_iff_of_sublist {α : Type} {w : α → Nat} (hpos : ∀ a, 0 < w a) {as bs : List α}
    (h : as.Sublist bs) :
    (as.map w).sum ≤ (bs.map w).sum ∧
    ((as.map w).sum = (bs.map w).sum ↔ as.length = bs.length) := by
  induction h with
  | slnil => simp
  | @cons as bs b h ih =>
      have hb := hpos b
      have hlength := h.length_le
      rw [List.map_cons, List.sum_cons, List.length_cons]
      omega
  | cons_cons b h ih =>
      simp only [List.map_cons, List.sum_cons, List.length_cons]
      omega

/-- A mapping of values has as many entries as it was given, unless two of them share a key. -/
theorem entryCountEntries_ofList (es : List (String × Value)) :
    Value.entryCountEntries (Entries.ofList es) ≤ Value.entryCountEntries es ∧
      (Value.entryCountEntries (Entries.ofList es) = Value.entryCountEntries es ↔
        (es.map (·.1)).Nodup) := by
  have hpos : ∀ e : String × Value, 0 < e.2.entryCount + 1 := fun e => Nat.succ_pos _
  have hsum : Value.entryCountEntries (Entries.ofList es) =
      ((Entries.lasting es).map fun e => e.2.entryCount + 1).sum := by
    rw [Value.entryCountEntries_eq]
    exact ((Entries.ofList_perm es).map _).sum_nat
  rw [hsum, Value.entryCountEntries_eq, ← Entries.length_lasting_eq_iff]
  exact sum_eq_iff_of_sublist hpos (Entries.lasting_sublist es)

mutual

/-- A value has no more entries than the data it comes from, and as many exactly if no keys meet. -/
theorem entryCount_ofData : ∀ d : Data, (ofData d).entryCount ≤ d.entryCount ∧
    ((ofData d).entryCount = d.entryCount ↔ d.EveryMapping KeysApart)
  | .null | .bool _ | .number _ | .string _ => ⟨Nat.le_refl _, iff_of_true rfl trivial⟩
  | .tagged _ content => entryCount_ofData content
  | .sequence items => entryCount_ofDataItems items
  | .mapping entries => by
      have hkept := entryCountEntries_ofList (ofDataEntries entries)
      have hinside := entryCount_ofDataEntries entries
      rw [map_ofDataEntries] at hkept
      rw [ofData, Value.entryCount, Data.entryCount, Data.EveryMapping, ← hinside.2, KeysApart,
        ← hkept.2]
      omega

theorem entryCount_ofDataItems : ∀ ds : List Data,
    Value.entryCountItems (ofDataItems ds) ≤ Data.entryCountItems ds ∧
      (Value.entryCountItems (ofDataItems ds) = Data.entryCountItems ds ↔
        Data.EveryMappingItems KeysApart ds)
  | [] => ⟨Nat.le_refl _, iff_of_true rfl trivial⟩
  | d :: ds => by
      have hd := entryCount_ofData d
      have hds := entryCount_ofDataItems ds
      rw [ofDataItems, Value.entryCountItems, Data.entryCountItems, Data.EveryMappingItems, ← hd.2,
        ← hds.2]
      omega

/-- Before entries meet none is lost but those further inside. -/
theorem entryCount_ofDataEntries : ∀ es : List (Data × Data),
    Value.entryCountEntries (ofDataEntries es) ≤ Data.entryCountEntries es ∧
      (Value.entryCountEntries (ofDataEntries es) = Data.entryCountEntries es ↔
        Data.EveryMappingEntries KeysApart es)
  | [] => ⟨Nat.le_refl _, iff_of_true rfl trivial⟩
  | (_, d) :: es => by
      have hd := entryCount_ofData d
      have hes := entryCount_ofDataEntries es
      rw [ofDataEntries, Value.entryCountEntries, Data.entryCountEntries, Data.EveryMappingEntries,
        ← hd.2, ← hes.2]
      omega

end

/-! ## The names of the five -/

/-- The letters `d` and `t` are in no number, and each of the five names has one of them. -/
theorem isCoreName_display_number (n : Number) : isCoreName n.display = false := by
  have hwrites : Number.plainLayout.Writes fun c => c ≠ 'd' ∧ c ≠ 't' := {
    digit := by
      rintro c hc
      constructor
      · rintro rfl
        exact absurd hc (by decide)
      · rintro rfl
        exact absurd hc (by decide)
    minus := by decide
    point := by decide
    letter := by decide
    wholeEnd := by decide
    exponentSign := by decide
    nan := by decide
    infinity := by decide }
  have hletters : ∀ c ∈ n.display.toList, c ≠ 'd' ∧ c ≠ 't' := by
    cases n with
    | int i =>
        rw [Number.display, Decimal.intText, String.toList_ofList]
        exact Decimal.forall_mem_signed hwrites.digit hwrites.minus _
    | uint u =>
        rw [Number.display, Decimal.natText, String.toList_ofList]
        exact fun c hc => hwrites.digit c (Decimal.isDigit_of_mem_digits hc)
    | float x => exact hwrites.forall_mem_text x
  have hnames : ∀ field : CoreField, 'd' ∈ field.name.toList ∨ 't' ∈ field.name.toList := by
    intro field
    cases field <;> decide
  rw [Bool.eq_false_iff]
  intro hcore
  obtain ⟨field, hfield⟩ := Option.isSome_iff_exists.1 hcore
  have hname : field.name = n.display := by simpa using List.find?_some hfield
  rw [← hname] at hletters
  rcases hnames field with hd | ht
  · exact (hletters _ hd).1 rfl
  · exact (hletters _ ht).2 rfl

/-- What does not stand for its own text does not become one of the five names. -/
theorem display_isScalarOf {text : String} {d : Data} (h : IsScalarOf text d) :
    (ofData d).display = text ∨ isCoreName (ofData d).display = false := by
  induction h with
  | null => exact .inr (by decide)
  | @bool b =>
      cases b
      · exact .inr (by decide)
      · exact .inr (by decide)
  | @number n _ => exact .inr (isCoreName_display_number n)
  | string => exact .inl rfl
  | tagged _ _ ih => exact ih

theorem display_scalarData {document : Yaml.Document} {p : Properties} {style : Style}
    {text : String} {d : Data} (h : GivesIn document (scalarData p style text) d) :
    (ofData d).display = text ∨ isCoreName (ofData d).display = false :=
  display_isScalarOf (Gives.of_givesIn (gives_scalarData p style text) h)

/-- One of the five names comes no more often among the keys than among their texts in the block. -/
theorem count_keyTexts_le {document : Yaml.Document} {depth : Nat} (field : CoreField)
    {es : List (Node × Node)} {ds : List (Data × Data)}
    (h : List.Forall₂ (fun e d => GivesIn document (Node.data depth e.1) d.1) es ds) :
    ∀ {texts : List String}, List.Forall₂ (fun e t => document.HasText e.1 t) es texts →
      (keyTexts ds).count field.name ≤ texts.count field.name := by
  induction h with
  | nil =>
      intro texts _
      exact Nat.zero_le _
  | @cons e d es ds hd _ ih =>
      intro texts htexts
      obtain ⟨text, rest, ht, hrest, rfl⟩ := List.forall₂_cons_left_iff.1 htexts
      have hle := ih hrest
      obtain ⟨p, style, -, hscalar⟩ := givesIn_scalarData ht hd
      show ((ofData d.1).display :: keyTexts ds).count field.name ≤ (text :: rest).count field.name
      rcases display_scalarData hscalar with heq | hother
      · rw [heq, List.count_cons, List.count_cons]
        exact Nat.add_le_add_right hle _
      · have hne : (ofData d.1).display ≠ field.name := by
          intro heq
          rw [heq, isCoreName_name] at hother
          cases hother
        rw [List.count_cons_of_ne hne]
        exact Nat.le_trans hle List.count_le_count_cons

/-- None of the five names comes twice in a block that is read. -/
theorem count_coreName_le {block : String} {ds : List (Data × Data)} {core : CoreField → String}
    (hdata : Data.ofText block = .ok (.mapping ds)) (hcore : readCore block = .ok core)
    (field : CoreField) : (keyTexts ds).count field.name ≤ 1 := by
  obtain ⟨document, hdocument, hread⟩ := givesIn_of_readText hcore
  obtain ⟨p, es, hroot, hentries⟩ := meant?_root hdocument hdata
  obtain ⟨r, hrecord, _⟩ := givesIn_bind hread
  obtain ⟨texts, htexts, hcount⟩ :=
    givesIn_collectFields (givesIn_record hroot hrecord) List.nodup_nil
  have hone := hcount field.name (List.mem_map_of_mem (mem_all field))
  have hle := count_keyTexts_le field (hentries.imp fun _ _ h => h.1) htexts
  exact Nat.le_trans hle (Nat.le_of_add_right_le hone)

/-! ## What an item keeps of its front matter -/

/-- The entries of a block: those of the mapping that it is, and none if it says nothing. -/
inductive HasEntries (block : String) : List (Data × Data) → Prop where
  | blank : Text.isBlankText block = true → HasEntries block []
  | nothing : Text.isBlankText block = false → Data.ofText block = .ok .null → HasEntries block []
  | mapping {es : List (Data × Data)} : Text.isBlankText block = false →
      Data.ofText block = .ok (.mapping es) → HasEntries block es

theorem HasEntries.areRead {block : String} {es : List (Data × Data)} (h : HasEntries block es) :
    AreRead 127 es := by
  have hnone : AreRead 127 [] := ⟨List.Pairwise.nil, List.forall_mem_nil _, List.forall_mem_nil _⟩
  cases h with
  | blank _ => exact hnone
  | nothing _ _ => exact hnone
  | mapping _ hdata =>
      cases isRead_of_ofText hdata with
      | mapping hdiffer hkey hvalue => exact ⟨hdiffer, hkey, hvalue⟩

/-- Those of the five fields that are among the keys. -/
def coreFieldsOf (es : List (Data × Data)) : List CoreField :=
  CoreField.all.filter fun field => field.name ∈ keyTexts es

/-- The entries of the configurable fields. -/
def configurableEntries (es : List (Data × Data)) : List (String × Value) :=
  (ofDataEntries es).filter fun e => !isCoreName e.1

theorem hasEntries_of_readItem {block : String} {item : Item} (h : readItem block = .ok item) :
    ∃ es, HasEntries block es ∧ item.fields.entries = Entries.ofList (configurableEntries es) ∧
      ∀ field : CoreField, (keyTexts es).count field.name ≤ 1 := by
  rw [readItem] at h
  split at h
  · rename_i hblank
    cases h
    exact ⟨[], .blank hblank, rfl, fun _ => Nat.zero_le _⟩
  · rename_i hblank
    rw [Bool.not_eq_true] at hblank
    split at h
    · cases h
    · rename_i hdata
      cases h
      exact ⟨[], .nothing hblank hdata, rfl, fun _ => Nat.zero_le _⟩
    · rename_i es hdata
      split at h
      · cases h
      · rename_i core hcore
        cases h
        exact ⟨es, .mapping hblank hdata, rfl, count_coreName_le hdata hcore⟩
    · cases h

theorem count_le_one {es : List (Data × Data)}
    (h : ∀ field : CoreField, (keyTexts es).count field.name ≤ 1) {name : String}
    (hname : isCoreName name = true) : (keyTexts es).count name ≤ 1 := by
  obtain ⟨field, hfield⟩ := Option.isSome_iff_exists.1 hname
  have heq : field.name = name := by simpa using List.find?_some hfield
  exact heq ▸ h field

/-- The five fields come once each, so they are as many as the entries with their names. -/
theorem length_coreFieldsOf {es : List (Data × Data)}
    (h : ∀ field : CoreField, (keyTexts es).count field.name ≤ 1) :
    (coreFieldsOf es).length = ((keyTexts es).filter isCoreName).length := by
  have hnames : (CoreField.all.map CoreField.name).Nodup := by decide
  have hinjective : ((coreFieldsOf es).map CoreField.name).Nodup :=
    hnames.sublist (List.filter_sublist.map _)
  have hkeys : ((keyTexts es).filter isCoreName).Nodup := by
    refine List.nodup_iff_count.2 fun name => ?_
    by_cases hname : isCoreName name = true
    · rw [List.count_filter hname]
      exact count_le_one h hname
    · rw [List.count_eq_zero_of_not_mem fun hmem => hname (List.mem_filter.1 hmem).2]
      exact Nat.zero_le _
  have hperm : ((coreFieldsOf es).map CoreField.name).Perm ((keyTexts es).filter isCoreName) := by
    refine (List.perm_ext_iff_of_nodup hinjective hkeys).2 fun name => ?_
    rw [List.mem_map, List.mem_filter]
    constructor
    · rintro ⟨field, hfield, rfl⟩
      exact ⟨by simpa using (List.mem_filter.1 hfield).2, isCoreName_name field⟩
    · rintro ⟨hmem, hname⟩
      obtain ⟨field, hfield⟩ := Option.isSome_iff_exists.1 hname
      have heq : field.name = name := by simpa using List.find?_some hfield
      exact ⟨field, List.mem_filter.2 ⟨mem_all field, by simpa [heq] using hmem⟩, heq⟩
  rw [← hperm.length_eq, List.length_map]

/-- An item and its five fields have all entries of a block exactly if no keys meet. -/
theorem length_fields_iff {es : List (Data × Data)}
    (h : ∀ field : CoreField, (keyTexts es).count field.name ≤ 1) :
    (Entries.ofList (configurableEntries es)).length + (coreFieldsOf es).length = es.length ↔
      KeysApart es := by
  have hkeys : (configurableEntries es).map (·.1) =
      (keyTexts es).filter fun k => !isCoreName k := by
    rw [configurableEntries, ← map_ofDataEntries, List.filter_map]
    rfl
  have hconfigurable : (configurableEntries es).length =
      ((keyTexts es).filter fun k => !isCoreName k).length := by
    rw [← hkeys, List.length_map]
  have hsplit : es.length = ((keyTexts es).filter isCoreName).length +
      ((keyTexts es).filter fun k => !isCoreName k).length := by
    rw [← List.length_eq_length_filter_add, keyTexts, List.length_map]
  have hlasting : (Entries.lasting (configurableEntries es)).length =
      (configurableEntries es).length ↔ ((configurableEntries es).map (·.1)).Nodup :=
    Entries.length_lasting_eq_iff
  rw [(Entries.ofList_perm (configurableEntries es)).length_eq, length_coreFieldsOf h, KeysApart]
  have hiff : ((keyTexts es).filter fun k => !isCoreName k).Nodup ↔ (keyTexts es).Nodup := by
    refine ⟨fun hnodup => List.nodup_iff_count.2 fun name => ?_, fun hnodup => hnodup.filter _⟩
    by_cases hname : isCoreName name = true
    · exact count_le_one h hname
    · have hcount := List.nodup_iff_count.1 hnodup name
      rwa [List.count_filter (by simpa using hname)] at hcount
  rw [← hiff, ← hkeys, ← hlasting]
  omega

/--
The fields of a document that is read are the entries of its block whose texts of keys do not come
again. Of the five none comes twice. So nothing is lost at the top, or inside of a value, exactly if
the texts of the keys differ there, as those of keys that are texts always do.
-/
theorem entries_of_ofText {raw : String} {d : Document} (h : Document.ofText raw = .ok d) :
    ∃ block es, split raw = .ok (block, d.body) ∧ HasEntries block es ∧
      d.item.fields.entries.Perm (Entries.lasting (configurableEntries es)) ∧
      (∀ field : CoreField, (keyTexts es).count field.name ≤ 1) ∧
      (d.item.fields.entries.length + (coreFieldsOf es).length = es.length ↔ KeysApart es) ∧
      (AreTexts es → KeysApart es) ∧
      ∀ e ∈ es, ((ofData e.2).entryCount = e.2.entryCount ↔ e.2.EveryMapping KeysApart) ∧
        (e.2.EveryMapping AreTexts → e.2.EveryMapping KeysApart) := by
  obtain ⟨parts, hsplit, h⟩ := exists_of_bind_eq_ok h
  obtain ⟨item, hitem, h⟩ := exists_of_bind_eq_ok h
  cases h
  obtain ⟨es, hes, hfields, hcore⟩ := hasEntries_of_readItem hitem
  have hread : AreRead 127 es := hes.areRead
  refine ⟨parts.1, es, hsplit, hes, ?_, hcore, ?_, keysApart_of_areTexts hread.differ, ?_⟩
  · rw [hfields]
    exact Entries.ofList_perm _
  · rw [hfields]
    exact length_fields_iff hcore
  · intro e he
    exact ⟨(entryCount_ofData e.2).2, everyMapping_keysApart (hread.value e he)⟩

/-- The entries of data that is a mapping. -/
def entriesOf? : Data → Option (List (Data × Data))
  | .mapping es => some es
  | _ => none

theorem entriesOf?_eq_some {d : Data} {es : List (Data × Data)} (h : entriesOf? d = some es) :
    d = .mapping es := by
  cases d <;> cases h
  rfl

theorem exists_entries {block : String} {α : Type} {f : List (Data × Data) → α} {a : α}
    (hblank : Text.isBlankText block = false)
    (h : ((Data.ofText block).toOption.bind entriesOf?).map f = some a) :
    ∃ es, HasEntries block es ∧ f es = a := by
  obtain ⟨es, hes, hf⟩ := Option.map_eq_some_iff.1 h
  obtain ⟨d, hd, hentries⟩ := Option.bind_eq_some_iff.1 hes
  obtain rfl := entriesOf?_eq_some hentries
  obtain ⟨d, hdata, rfl⟩ := exists_ok (f := id) ((Option.map_id_apply ..).trans hd)
  exact ⟨es, .mapping hblank hdata, hf⟩

/-- A document with a number and a flag as keys, and with a mapping inside. -/
def variousKeys : String := "---\nid: 7\n12: \x7b1: a, 2: b\x7d\ntrue: c\n---\n"

theorem entries_of_ofText_variousKeys :
    ∃ d block es, Document.ofText variousKeys = .ok d ∧ split variousKeys = .ok (block, d.body) ∧
      HasEntries block es ∧
      (d.item.fields.entries.length + (coreFieldsOf es).length = es.length ↔ KeysApart es) ∧
      d.item.fields.keys = ["12", "true"] := by
  have hkeys : (Document.ofText variousKeys).toOption.map (fun d => d.item.fields.keys) =
      some ["12", "true"] := by decide +kernel
  obtain ⟨d, hread, hkeys⟩ := exists_ok hkeys
  obtain ⟨block, es, hsplit, hes, -, -, hiff, -⟩ := entries_of_ofText hread
  exact ⟨d, block, es, hread, hsplit, hes, hiff, hkeys⟩

/-- A document with keys that meet: a number and its text at the top, null and its text inside. -/
def meetingKeys : String := "---\n1: a\n\"1\": b\nm: \x7bnull: a, \"null\": b\x7d\n---\n"

/-- The block between the delimiters of `meetingKeys`. -/
def meetingBlock : String := "1: a\n\"1\": b\nm: \x7bnull: a, \"null\": b\x7d\n"

/-- Of the two values under each text the first is lost. -/
theorem entries_of_ofText_meetingKeys :
    ∃ d es, Document.ofText meetingKeys = .ok d ∧ split meetingKeys = .ok (meetingBlock, d.body) ∧
      HasEntries meetingBlock es ∧
      d.item.fields.entries.length + (coreFieldsOf es).length < es.length ∧
      (es.map fun e => e.2.entryCount) = [0, 0, 2] ∧
      (d.item.fields.entries.map fun e => (e.1, e.2.string?, e.2.entryCount)) =
        [("1", some "b", 0), ("m", none, 1)] := by
  have hfields : (Document.ofText meetingKeys).toOption.map (fun d =>
      (d.body, d.item.fields.entries.map fun e => (e.1, e.2.string?, e.2.entryCount))) =
        some ("", [("1", some "b", 0), ("m", none, 1)]) := by decide +kernel
  have hentries : ((Data.ofText meetingBlock).toOption.bind entriesOf?).map (fun es =>
      (coreFieldsOf es, es.map fun e => e.2.entryCount)) = some ([], [0, 0, 2]) := by decide +kernel
  have hsplit : (split meetingKeys).toOption.map id = some (meetingBlock, "") := by decide +kernel
  obtain ⟨d, hread, hd⟩ := exists_ok hfields
  obtain ⟨hbody, hfields⟩ := Prod.mk.inj hd
  obtain ⟨es, hes, hcounts⟩ := exists_entries (by decide +kernel) hentries
  obtain ⟨hcore, hcounts⟩ := Prod.mk.inj hcounts
  obtain ⟨parts, hsplit, rfl⟩ := exists_ok hsplit
  have hlength : es.length = 3 := by
    rw [← List.length_map (fun e : Data × Data => e.2.entryCount), hcounts]
    rfl
  have hfewer : d.item.fields.entries.length = 2 := by
    rw [← List.length_map fun e : String × Value => (e.1, e.2.string?, e.2.entryCount), hfields]
    rfl
  refine ⟨d, es, hread, ?_, hes, ?_, hcounts, hfields⟩
  · rw [hsplit, hbody]
  · rw [hcore, hlength, hfewer]
    decide

end FrontMatter
end WorkItems
