import WorkItems.Proofs.FrontMatter.Parsed
import WorkItems.Repair
/-!
# The names of the five fields

A schema may have configurable fields with the names `id`, `title`, `status`, `kind` and `created`,
with defaults for them, and a front matter may have keys that only turn into these names once they
are texts. Still no configurable field of an item ever has such a name (`Item.NamesApart`): reading
drops them, and every edit keeps them out, also one that ends half way. So nothing that is done to
configurable fields reaches the five fields themselves.
-/

namespace WorkItems

/-- No configurable field of an item has the name of one of the five. -/
def Item.NamesApart (item : Item) : Prop := ∀ field : CoreField, field.name ∉ item.fields.keys

/--
Something that is done to a document. Every time it may be with another schema and on another day.
-/
inductive Edit where
  | setField (name : String) (value : Value)
  | setCore (field : CoreField) (text : String)
  | applyDefaults (s : Schema) (today : Date)
  | fixValues (s : Schema)
  | fixCreated
  | repair (s : Schema) (today : Date)

/--
The document behind an edit. A field that is refused leaves it as it is, and a default that cannot
be resolved leaves it with the fields that were filled before.
-/
def Edit.apply (d : Document) : Edit → Document
  | setField name value => { d with item := (d.item.setField? name value).getD d.item }
  | setCore field text => { d with item := d.item.setCore field text }
  | applyDefaults s today => { d with item := (Repair.applyDefaults s today d.item).1 }
  | fixValues s => { d with item := (Repair.fixValues s d.item).1 }
  | fixCreated => { d with item := (Repair.fixCreated d.item).1 }
  | repair s today => (Repair.repairDocument s today d).1

namespace Item.NamesApart

variable {item : Item}

theorem of_ofText {raw : String} {d : Document} (h : Document.ofText raw = .ok d) :
    d.item.NamesApart := by
  intro field hmem
  obtain ⟨e, he, hname⟩ := List.mem_map.1 hmem
  have hread := (FrontMatter.isReadField_of_ofText h e he).1
  rw [hname, isCoreName_name] at hread
  cases hread

theorem insert (h : item.NamesApart) {name : String} (hname : isCoreName name = false) (v : Value) :
    NamesApart { item with fields := item.fields.insert name v } := by
  intro field hmem
  rcases Entries.mem_keys_insert.1 hmem with heq | hmem
  · rw [← heq, isCoreName_name] at hname
    cases hname
  · exact h field hmem

theorem setField (h : item.NamesApart) (name : String) (v : Value) :
    ((item.setField? name v).getD item).NamesApart := by
  rw [setField?]
  split
  · exact h
  · rename_i hname
    exact h.insert (by simpa using hname) v

theorem setCore (h : item.NamesApart) (field : CoreField) (text : String) :
    (item.setCore field text).NamesApart := by
  cases field <;> exact h

/-- Filling passes over the fields with such names, and keeps what it did when it ends half way. -/
theorem fillFields {today : Date} {fs : List Field} (h : item.NamesApart) :
    (Repair.fillFields today item fs).1.NamesApart := by
  induction fs generalizing item with
  | nil => exact h
  | cons f fs ih =>
      rw [Repair.fillFields]
      split
      · exact ih h
      · rename_i hskip
        split
        · exact h
        · exact ih h
        · rename_i v _
          have hname : isCoreName f.name = false := by
            rw [Bool.or_eq_true_iff, not_or] at hskip
            simpa using hskip.1
          exact ih (h.insert hname v)

theorem fixValues (h : item.NamesApart) (s : Schema) : (Repair.fixValues s item).1.NamesApart := by
  intro field hmem
  have hkeys : (item.fields.map (Repair.restated s)).keys = item.fields.keys := by
    rw [Dict.keys, Dict.map, List.map_map]
    rfl
  exact h field (hkeys ▸ hmem)

theorem fixCreated (h : item.NamesApart) : (Repair.fixCreated item).1.NamesApart := by
  rw [Repair.fixCreated]
  split
  · exact h
  · exact h

theorem repairItem (h : item.NamesApart) (s : Schema) (today : Date) :
    (Repair.repairItem s today item).1.NamesApart := by
  have hfilled : (Repair.applyDefaults s today item).1.NamesApart := h.fillFields
  rw [Repair.repairItem]
  split
  · rename_i heq
    rw [heq] at hfilled
    exact hfilled
  · rename_i heq
    rw [heq] at hfilled
    exact (hfilled.fixValues s).fixCreated

/-- An edit keeps the names apart. -/
theorem edit {d : Document} (h : d.item.NamesApart) (e : Edit) : (e.apply d).item.NamesApart := by
  cases e with
  | setField name value => exact h.setField name value
  | setCore field text => exact h.setCore field text
  | applyDefaults s today => exact h.fillFields
  | fixValues s => exact h.fixValues s
  | fixCreated => exact h.fixCreated
  | repair s today => exact h.repairItem s today

/-- So do several edits, one after the other. -/
theorem edits {d : Document} (h : d.item.NamesApart) (es : List Edit) :
    (es.foldl Edit.apply d).item.NamesApart := by
  induction es generalizing d with
  | nil => exact h
  | cons e es ih => exact ih (h.edit e)

end Item.NamesApart

/-! ## The five fields -/

namespace Repair

theorem core_fillFields {today : Date} {fs : List Field} (item : Item) (field : CoreField) :
    (fillFields today item fs).1.core field = item.core field := by
  induction fs generalizing item with
  | nil => rfl
  | cons f fs ih =>
      rw [fillFields]
      split
      · exact ih item
      · split
        · rfl
        · exact ih item
        · rw [ih]
          cases field <;> rfl

theorem core_fixValues (s : Schema) (item : Item) (field : CoreField) :
    (fixValues s item).1.core field = item.core field := by
  cases field <;> rfl

end Repair

/--
Whatever is done to a document that was read, no configurable field of it has the name of one of the
five, and neither filling in defaults nor restating values changes one of the five.
-/
theorem core_names_stay_apart :
    (∀ raw d, Document.ofText raw = .ok d → ∀ es : List Edit,
      (es.foldl Edit.apply d).item.NamesApart) ∧
    ∀ (s : Schema) (today : Date) (item : Item) (field : CoreField),
      (Repair.applyDefaults s today item).1.core field = item.core field ∧
        (Repair.fixValues s item).1.core field = item.core field := by
  constructor
  · intro raw d h es
    exact (Item.NamesApart.of_ofText h).edits es
  · intro s today item field
    exact ⟨Repair.core_fillFields item field, Repair.core_fixValues s item field⟩

/-- A schema with defaults for a date and for a field that is named like one of the five. -/
def Schema.colliding : Schema :=
  { (default : Schema) with
    fields := ⟨[("due", ⟨"due", { fieldType := .date, default := some (.string "today") }, none,
        DateFormat.standard, none, none⟩),
      ("title", ⟨"title", { fieldType := .string, default := some (.string "none") }, none,
        DateFormat.standard, none, none⟩)], List.pairwise_pair.2 (by decide)⟩ }

/-- Attempts to bring in the name of one of the five. -/
def Edit.collisions : List Edit :=
  [.setField "title" (.string "T"), .setCore .title "",
    .applyDefaults .colliding DateFormat.january, .fixValues .colliding, .fixCreated,
    .repair .colliding DateFormat.january]

/-- The date is filled in, and the title is not. -/
theorem core_names_stay_apart_colliding :
    ∃ d, Document.ofText "---\nid: 1\ntitle: T\n---\n" = .ok d ∧
      (Edit.collisions.foldl Edit.apply d).item.NamesApart ∧
      (Edit.collisions.foldl Edit.apply d).item.fields.keys = ["due"] := by
  have hkeys : (Document.ofText "---\nid: 1\ntitle: T\n---\n").toOption.map
      (fun d => (Edit.collisions.foldl Edit.apply d).item.fields.keys) = some ["due"] := by
    decide +kernel
  cases hread : Document.ofText "---\nid: 1\ntitle: T\n---\n" with
  | error e =>
      rw [hread] at hkeys
      cases hkeys
  | ok d =>
      rw [hread] at hkeys
      exact ⟨d, rfl, core_names_stay_apart.1 _ d hread Edit.collisions, Option.some.inj hkeys⟩

end WorkItems
