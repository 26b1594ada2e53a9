import WorkItems.Proofs.Dict
import WorkItems.Proofs.Except
import WorkItems.Proofs.FrontMatter.RoundTrip
import WorkItems.Proofs.Yaml.ReadData
import WorkItems.Proofs.Yaml.Reals
/-!
# What documents hold

The values of a document that was read are in order, do not nest deeper than data may, and their
numbers are integers in their one form or floating-point numbers. None of the configurable fields
has the name of one of the five. So whatever was read can be written and read again, over and over,
as long as its texts are carried over, it has no NaN, and none of the five is an integer that no
number can hold.
-/

namespace WorkItems

theorem isCoreName_name (field : CoreField) : isCoreName field.name = true := by
  cases field <;> decide

namespace FrontMatter

open Yaml

/-! ## Values that are read -/

/-- What values that are read are made of. -/
def readParts : Value.Condition where
  text _ := True
  key _ := True
  number := IsReadNumber

/-- A value in order, of limited depth and with numbers as they are read. -/
structure WellRead (depth : Nat) (v : Value) : Prop where
  nesting : v.nesting ≤ depth
  ordered : v.Ordered
  parts : v.Fulfils readParts

theorem mem_ofDataItems {ds : List Data} {v : Value} (h : v ∈ ofDataItems ds) :
    ∃ d ∈ ds, v = ofData d := by
  induction ds with
  | nil => cases h
  | cons d ds ih =>
      rw [ofDataItems] at h
      rcases List.mem_cons.1 h with rfl | h
      · exact ⟨d, List.mem_cons_self .., rfl⟩
      · obtain ⟨e, he, rfl⟩ := ih h
        exact ⟨e, List.mem_cons_of_mem _ he, rfl⟩

theorem mem_ofDataEntries {es : List (Data × Data)} {e : String × Value}
    (h : e ∈ ofDataEntries es) : ∃ d ∈ es, e.2 = ofData d.2 := by
  induction es with
  | nil => cases h
  | cons d es ih =>
      rw [ofDataEntries] at h
      rcases List.mem_cons.1 h with rfl | h
      · exact ⟨d, List.mem_cons_self .., rfl⟩
      · obtain ⟨f, hf, heq⟩ := ih h
        exact ⟨f, List.mem_cons_of_mem _ hf, heq⟩

/-- Data becomes a value of the same depth, whose mappings are put in order. -/
theorem wellRead_ofData {depth : Nat} {d : Data} (h : IsRead depth d) :
    WellRead depth (ofData d) := by
  induction h with
  | null => exact ⟨Nat.zero_le _, trivial, trivial⟩
  | bool => exact ⟨Nat.zero_le _, trivial, trivial⟩
  | number hn => exact ⟨Nat.zero_le _, trivial, hn⟩
  | string => exact ⟨Nat.zero_le _, trivial, trivial⟩
  | tagged _ _ ih => exact ih
  | @sequence depth ds _ ih =>
      have hitems : ∀ v ∈ ofDataItems ds, WellRead depth v := by
        intro v hv
        obtain ⟨d, hd, rfl⟩ := mem_ofDataItems hv
        exact ih d hd
      exact {
        nesting := Nat.succ_le_succ (Value.nestingItems_le fun v hv => (hitems v hv).nesting)
        ordered := Value.orderedItems_iff.2 fun v hv => (hitems v hv).ordered
        parts := Value.fulfilsItems_iff.2 fun v hv => (hitems v hv).parts }
  | @mapping depth es _ _ _ _ ih =>
      have hentries : ∀ e ∈ Entries.ofList (ofDataEntries es), WellRead depth e.2 := by
        intro e he
        obtain ⟨d, hd, heq⟩ := mem_ofDataEntries (Entries.mem_ofList he)
        exact heq ▸ ih d hd
      exact {
        nesting := Nat.succ_le_succ (Value.nestingEntries_le fun e he => (hentries e he).nesting)
        ordered := ⟨Entries.sorted_ofList _,
          Value.orderedEntries_iff.2 fun e he => (hentries e he).ordered⟩
        parts := Value.fulfilsEntries_iff.2 fun e he => ⟨trivial, (hentries e he).parts⟩ }

/-! ## Items that are read -/

/-- A configurable field that is read does not have the name of one of the five. -/
def IsReadField (e : String × Value) : Prop := isCoreName e.1 = false ∧ WellRead 127 e.2

theorem isReadField_of_readItem {block : String} {item : Item} (h : readItem block = .ok item) :
    ∀ e ∈ item.fields.entries, IsReadField e := by
  have hempty : ∀ e ∈ Item.empty.fields.entries, IsReadField e := fun e he => nomatch he
  rw [readItem] at h
  split at h
  · cases h
    exact hempty
  · split at h
    · cases h
    · cases h
      exact hempty
    · rename_i entries hdata
      split at h
      · cases h
      · cases h
        intro e he
        have hmem := List.mem_filter.1 (Entries.mem_ofList he)
        obtain ⟨d, hd, heq⟩ := mem_ofDataEntries hmem.1
        cases isRead_of_ofText hdata with
        | mapping _ _ hentries =>
            exact ⟨by simpa using hmem.2, heq ▸ wellRead_ofData (hentries d hd)⟩
    · cases h

theorem isReadField_of_ofText {raw : String} {d : Document} (h : Document.ofText raw = .ok d) :
    ∀ e ∈ d.item.fields.entries, IsReadField e := by
  obtain ⟨parts, -, h⟩ := exists_of_bind_eq_ok h
  obtain ⟨item, hitem, h⟩ := exists_of_bind_eq_ok h
  cases h
  exact isReadField_of_readItem hitem

/-! ## Numbers that are read -/

theorem isRealLayout_numberLayout : IsRealLayout numberLayout := ⟨rfl, rfl, rfl, rfl⟩

theorem numberReads_text {layout : Decimal.Layout} (h : IsRealLayout layout) {x : Float}
    (hx : Decimal.isNaN x = false) : NumberReads (layout.text x) (.float x) := by
  have hnumeral := h.writes.forall_mem_text x
  exact {
    scalar := isPlainScalar_of_mark hnumeral (h.exists_isMark_text x) true
    printable := fun c hc => (hnumeral c hc).printable
    resolves := h.resolve_text hx }

/--
The two layouts differ in where an exponent begins. Both are of numbers that are read as they were.
-/
theorem isCarriedNumber_of_read {n : Number} (h : IsReadNumber n)
    (hn : ∀ x, n = .float x → Decimal.isNaN x = false) : IsCarriedNumber n := by
  cases n with
  | int i => exact numberReads_of_isInteger trivial
  | uint u => exact numberReads_of_isInteger h
  | float x =>
      have hx := hn x rfl
      exact ⟨numberReads_text isRealLayout_numberLayout hx,
        numberReads_text isRealLayout_realLayout hx⟩

/-! ## Reading again what was read -/

/--
What the values of a document that was read have to be made of to be written and read again: texts
that are carried over, and no NaN.
-/
def carriedTexts : Value.Condition where
  text := IsCarried
  key s := IsCarried s ∧ (fieldText s).length ≤ 1024
  number n := ∀ x, n = .float x → Decimal.isNaN x = false

theorem fulfils_carriedParts {v : Value} (h : v.Fulfils carriedTexts) (h' : v.Fulfils readParts) :
    v.Fulfils carriedParts := by
  refine (h.and h').imp (fun _ hs => ?_) (fun _ hs => ?_) fun n hn => ?_
  · exact hs.1
  · exact hs.1
  · exact isCarriedNumber_of_read hn.2 hn.1

theorem carried_of_ofText {raw : String} {d : Document} (h : Document.ofText raw = .ok d)
    (hcore : ∀ field, IsCarriedCore (d.item.core field))
    (hparts : Value.FulfilsEntries carriedTexts d.item.fields.entries) : Carried d.item := by
  have hread := isReadField_of_ofText h
  have htexts := Value.fulfilsEntries_iff.1 hparts
  exact {
    core := hcore
    noCoreName := fun e he => (hread e he).1
    parts := Value.fulfilsEntries_iff.2 fun e he =>
      ⟨(htexts e he).1, fulfils_carriedParts (htexts e he).2 (hread e he).2.parts⟩
    ordered := Value.orderedEntries_iff.2 fun e he => (hread e he).2.ordered
    nesting := Nat.lt_succ_of_le (Value.nestingEntries_le fun e he => (hread e he).2.nesting) }

/--
A document that was read, of texts that are carried over and without a NaN, is written as a text
that is a document exactly if none of its five texts is an integer that no number can hold. It is
the same document then, and is written in the same way again.
-/
theorem ofText_render_ofText {raw : String} {d : Document} (h : Document.ofText raw = .ok d)
    (hcore : ∀ field, IsCarriedCore (d.item.core field))
    (hparts : Value.FulfilsEntries carriedTexts d.item.fields.entries) :
    ((∃ again, Document.ofText d.render = .ok again) ↔ ¬HasOversized d.item) ∧
      ∀ again, Document.ofText d.render = .ok again → again = d ∧ again.render = d.render := by
  obtain ⟨hiff, hfails⟩ := ofText_render_readable (carried_of_ofText h hcore hparts).readable
  have hsize : ∀ again, Document.ofText d.render = .ok again → ¬HasOversized d.item := by
    intro again hagain hsize
    rw [hfails hsize] at hagain
    cases hagain
  refine ⟨⟨fun ⟨again, hagain⟩ => hsize again hagain, fun hsize => ⟨d, hiff.2 hsize⟩⟩, ?_⟩
  intro again hagain
  obtain rfl := Except.ok.inj (hagain.symm.trans (hiff.2 (hsize again hagain)))
  exact ⟨rfl, rfl⟩

theorem ofText_render_ofText_sampleItem :
    let d : Document := ⟨sampleItem, "---\n"⟩
    Document.ofText d.render = .ok d ∧ ∃ again, Document.ofText d.render = .ok again ∧
      again = d ∧ again.render = d.render := by
  intro d
  have hcarried := ordinary_sampleItem.carried
  have hread : Document.ofText d.render = .ok d :=
    (ofText_render_readable hcarried.readable).1.2 not_hasOversized_sampleItem
  have hparts : Value.FulfilsEntries carriedTexts sampleItem.fields.entries := by
    refine ordinary_sampleItem.parts.imp (fun _ hs => ?_) (fun _ hs => ?_) fun _ hn x hx => ?_
    · exact IsOrdinary.isCarried hs
    · exact ⟨hs.1.isCarried, Nat.le_trans hs.2 (by decide)⟩
    · rw [hx] at hn
      exact absurd hn id
  obtain ⟨hiff, hsame⟩ := ofText_render_ofText hread hcarried.core hparts
  obtain ⟨again, hagain⟩ := hiff.2 not_hasOversized_sampleItem
  exact ⟨hread, again, hagain, hsame again hagain⟩

/--
A document whose title is such an integer between quotes, which the written text does not keep.
-/
def quotedInteger : String := "---\ntitle: \"12345678901234567890123\"\n---\n"

theorem ofText_render_ofText_quotedInteger :
    ∃ d, Document.ofText quotedInteger = .ok d ∧ d.item.fields.entries = [] ∧
      ∀ again, Document.ofText d.render ≠ .ok again := by
  have htexts : ((Document.ofText quotedInteger).toOption.map fun d =>
      (d.item.fields.isEmpty, CoreField.all.map d.item.core)) =
        some (true, CoreField.all.map oversizedItem.core) := by decide +kernel
  cases hread : Document.ofText quotedInteger with
  | error e =>
      rw [hread] at htexts
      cases htexts
  | ok d =>
      rw [hread] at htexts
      obtain ⟨hempty, hcore⟩ := Prod.mk.inj (Option.some.inj htexts)
      have hentries : d.item.fields.entries = [] := List.isEmpty_iff.1 hempty
      have hsame : ∀ field, d.item.core field = oversizedItem.core field :=
        fun field => List.map_inj_left.1 hcore field (mem_all field)
      have hcarried := carried_of_ofText hread
        (fun field => hsame field ▸ ordinary_oversizedItem.carried.core field) (hentries ▸ trivial)
      have hsize : HasOversized d.item := ⟨.title, hsame .title ▸ isOversized_oversizedItem⟩
      refine ⟨d, rfl, hentries, fun again hagain => ?_⟩
      rw [(ofText_render_readable hcarried.readable).2 hsize] at hagain
      cases hagain

end FrontMatter

end WorkItems
