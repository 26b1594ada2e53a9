import WorkItems.Proofs.Repair.Values
import WorkItems.Proofs.Schema.OfConfig
/-!
# What becomes of a date that is restated

A date in another form is restated in the format of its field. That the format can be used
(`DateFormat.check`) makes sure that every date can be written by it, but not that the text shows
the same date again: with two digits of the year, say, 1950 comes back as 2050. A format with year,
month and day apart from each other (`DatePattern.IsSeparated`) keeps every date.
-/

namespace WorkItems

/-! ## Formats that can be used -/

namespace DatePattern

variable {p : DatePattern}

/-- Whether an item can be written does not depend on the date. -/
theorem isSome_itemText? (item : PatternItem) (d e : Date) :
    (itemText? d item).isSome = (itemText? e item).isSome := by
  cases item with
  | text part =>
      cases part <;> simp only [itemText?, textText?, Option.isSome_some, Option.isSome_none]
  | _ => rfl

/-- A pattern that writes one date writes all of them. -/
theorem exists_write?_of_write? {d : Date} {cs : List Char} (h : p.write? d = some cs) (e : Date) :
    ∃ ds, p.write? e = some ds := by
  induction p generalizing cs with
  | nil => exact ⟨[], rfl⟩
  | cons item rest ih =>
      obtain ⟨first, behind, hfirst, hbehind, -⟩ := write?_cons.1 h
      obtain ⟨ds, hds⟩ := ih hbehind
      have hitem : (itemText? e item).isSome = true := by
        rw [isSome_itemText? item e d, hfirst]
        rfl
      obtain ⟨text, htext⟩ := Option.isSome_iff_exists.1 hitem
      exact ⟨text ++ ds, write?_cons.2 ⟨text, ds, htext, hds, rfl⟩⟩

end DatePattern

namespace DateFormat

variable {format : String}

/-- A format that can be used is a pattern that writes every date. -/
theorem exists_write?_of_check (h : check format = .ok ()) :
    ∃ p, DatePattern.ofText? format = some p ∧ ∀ d, ∃ cs, p.write? d = some cs := by
  rw [check] at h
  split at h
  · cases h
  · rename_i p hp
    split at h
    · rename_i first second hfirst hsecond
      exact ⟨p, hp, DatePattern.exists_write?_of_write? hfirst⟩
    · cases h

/-- A format that can be used writes no blank text. -/
theorem isBlankText_write_of_check (h : check format = .ok ()) (d : Date) :
    Text.isBlankText (write format d) = false := by
  rw [check] at h
  split at h
  · cases h
  · rename_i p hp
    split at h
    · rename_i first second _ _
      split at h
      · cases h
      · split at h
        · rename_i hreads
          have hread : p.read? (String.ofList first) = some january :=
            of_decide_eq_true (Bool.and_eq_true_iff.1 hreads).1
          rw [← parse?_of_ofText? hp] at hread
          exact isBlankText_write hread d
        · cases h
    · cases h

end DateFormat

/-! ## Fields of a schema -/

namespace Schema

theorem mem_compileFields {es : Entries FieldConfig} {fields : List (String × Field)}
    (h : compileFields es = .ok fields) {name : String} {f : Field} (hf : (name, f) ∈ fields) :
    ∃ c, Field.ofConfig name c = .ok f := by
  induction es generalizing fields with
  | nil =>
      obtain rfl := Except.ok.inj h
      cases hf
  | cons e es ih =>
      obtain ⟨key, c⟩ := e
      rw [compileFields] at h
      split at h
      · cases h
      · rename_i g hg
        cases hrest : compileFields es with
        | error e =>
            rw [hrest] at h
            cases h
        | ok rest =>
            rw [hrest] at h
            obtain rfl := Except.ok.inj h
            rcases List.mem_cons.1 hf with heq | hmem
            · cases heq
              exact ⟨c, hg⟩
            · exact ih hrest hmem

/-- Every date field of a schema that a configuration gives has a format that can be used. -/
theorem check_of_ofConfig {c : Config} {s : Schema} (h : ofConfig c = .ok s) {name : String}
    {f : Field} (hf : s.field? name = some f) (hdate : f.fieldType = .date) :
    DateFormat.check f.dateFormat = .ok () := by
  rw [ofConfig] at h
  obtain ⟨fields, hfields, h⟩ := exists_of_bind_eq_ok h
  dsimp only at h
  split at h
  · cases h
  · obtain rfl := Except.ok.inj h
    have hmem := Entries.mem_ofList (Entries.mem_of_find? hf)
    obtain ⟨d, hd⟩ := mem_compileFields hfields hmem
    exact (Field.isMadeFrom_of_ofConfig hd).check_dateFormat hdate

/-- What the date fields of a schema that a configuration gives write is not blank. -/
theorem showsDates_of_ofConfig {c : Config} {s : Schema} (h : ofConfig c = .ok s) :
    ∀ f ∈ s.fields.values, f.ShowsDates := by
  intro f hf hdate d
  obtain ⟨e, he, rfl⟩ := List.mem_map.1 hf
  have hfind : s.field? e.1 = some e.2 := (Entries.find?_eq_some_iff s.fields.sorted).2 he
  exact DateFormat.isBlankText_write_of_check (check_of_ofConfig h hfind hdate) d

end Schema

/-! ## Dates that are restated -/

namespace Repair

variable {s : Schema} {item : Item} {f : Field} {name old new : String}

/--
The canonical form of a text that shows a date in another way is the date in the format of the
field.
-/
theorem canonical?_date {text : String} (hdate : f.fieldType = .date)
    (h : canonical? f text = some new) :
    ∃ d, DateFormat.readAlternate? text = some d ∧ new = DateFormat.write f.dateFormat d := by
  rw [canonical?, hdate] at h
  dsimp only at h
  split at h
  · cases h
  · obtain ⟨d, hd, rfl⟩ := Option.map_eq_some_iff.1 h
    exact ⟨d, hd, rfl⟩

theorem find?_fixValues (s : Schema) {v : Value} (h : item.fields.find? name = some v) :
    (fixValues s item).1.fields.find? name = some (restated s name v) := by
  rw [find?_fixValues_eq_map, h, Option.map_some]

/-- A text is restated to its canonical form. -/
theorem restated_string (hf : s.field? name = some f) (htext : Text.isBlankText old = false)
    (h : canonical? f old = some new) : restated s name (.string old) = .string new := by
  by_cases heq : new = old
  · simp [restated, restatement?, hf, Value.string?, htext, h, heq]
  · simp [restated, restatement?, hf, Value.string?, htext, h, heq]

/-- A text that the repair puts in the place of another is its canonical form. -/
theorem canonical?_of_fixValues (hf : s.field? name = some f)
    (hold : item.fields.find? name = some (.string old))
    (hnew : (fixValues s item).1.fields.find? name = some (.string new)) (hne : new ≠ old) :
    canonical? f old = some new := by
  rw [find?_fixValues s hold, restated] at hnew
  have hvalue := Option.some.inj hnew
  split at hvalue
  · rename_i before after hrestated
    cases hvalue
    obtain ⟨g, hg, hstring, -, hcanonical, -⟩ := restatement?_eq_some hrestated
    cases hstring
    obtain rfl := Option.some.inj (hf.symm.trans hg)
    exact hcanonical
  · cases hvalue
    exact absurd rfl hne

/--
A date that is restated is written in the format of its field, which can write every date. The text
is read again as the same date exactly if the pattern of the format finds that date in it. A
separated pattern does so for all dates, a shortened one for those between 1970 and 2069 alone.
-/
theorem fixValues_date {c : Config} (hs : Schema.ofConfig c = .ok s) (hf : s.field? name = some f)
    (hdate : f.fieldType = .date) (hold : item.fields.find? name = some (.string old))
    (hnew : (fixValues s item).1.fields.find? name = some (.string new)) (hne : new ≠ old) :
    ∃ d p, DateFormat.readAlternate? old = some d ∧ DatePattern.ofText? f.dateFormat = some p ∧
      p.write? d = some new.toList ∧
      (DateFormat.read? f.dateFormat new = DateFormat.readAlternate? old ↔ p.read? new = some d) ∧
      (p.IsSeparated → DateFormat.read? f.dateFormat new = DateFormat.readAlternate? old) ∧
      (p.IsShortened → (DateFormat.read? f.dateFormat new = DateFormat.readAlternate? old ↔
        1970 ≤ d.year ∧ d.year ≤ 2069)) := by
  obtain ⟨d, hd, rfl⟩ := canonical?_date hdate (canonical?_of_fixValues hf hold hnew hne)
  obtain ⟨p, hp, hwrites⟩ :=
    DateFormat.exists_write?_of_check (Schema.check_of_ofConfig hs hf hdate)
  obtain ⟨cs, hcs⟩ := hwrites d
  refine ⟨d, p, hd, hp, ?_, ?_, fun hseparated => ?_, fun hshortened => ?_⟩
  · rw [DateFormat.write_of_write? hp hcs, String.toList_ofList, hcs]
  · rw [hd, ← DateFormat.parse?_of_ofText? hp]
    exact DateFormat.read?_write_iff hp hcs
  · rw [hd]
    exact DateFormat.readsBack_of_isSeparated hp hseparated d
  · rw [hd]
    exact DateFormat.read?_write_iff_of_isShortened hp hshortened

/-! ## A project with a date -/

/-- A project whose items have a date in some format. -/
def dueConfig (format : String) : Config :=
  { Config.ofName "p" with
    fields := .ofList [("due", { fieldType := .date, format := some format })]
    validation := { idFormat := "[0-9]" } }

/-- The field of that project. -/
def dueField (format : String) : Field :=
  ⟨"due", { fieldType := .date, format := some format }, none, format, none, none⟩

/-- An item with a text in that field. -/
def dueItem (text : String) : Item :=
  { Item.empty with fields := Dict.empty.insert "due" (.string text) }

theorem find?_dueItem (text : String) : (dueItem text).fields.find? "due" = some (.string text) :=
  (Entries.find?_insert "due" "due" (Value.string text) []).trans (if_pos rfl)

theorem ofConfig_dueConfig {format : String} (hformat : Text.isBlankText format = false)
    (hcheck : (DateFormat.check format).isOk = true) :
    ∃ s, Schema.ofConfig (dueConfig format) = .ok s ∧ s.field? "due" = some (dueField format) := by
  have heffective : DateFormat.effective (some format) = format := by
    rw [DateFormat.effective, hformat]
    rfl
  have hfield : Field.ofConfig "due" { fieldType := .date, format := some format } =
      .ok (dueField format) := by
    cases hresult : DateFormat.check format with
    | error e =>
        rw [hresult] at hcheck
        cases hcheck
    | ok =>
        simp only [Field.ofConfig, Field.readTyped, heffective, hresult, Field.checkLengths,
          Field.checkValues, Field.readBound, Field.checkDates, bind, Except.bind, List.map_nil,
          dueField]
  have hentries : (dueConfig format).fields.entries =
      [("due", { fieldType := .date, format := some format })] := rfl
  have hid : (Pattern.ofText (dueConfig format).validation.idFormat).isOk = true := by
    change (Pattern.ofText "[0-9]").isOk = true
    decide +kernel
  cases hpattern : Pattern.ofText (dueConfig format).validation.idFormat with
  | error e =>
      rw [hpattern] at hid
      cases hid
  | ok idPattern =>
      simp only [Schema.ofConfig, hentries, Schema.compileFields, hfield, Except.map, bind,
        Except.bind, hpattern]
      exact ⟨_, rfl, (Entries.find?_insert "due" "due" (dueField format) []).trans (if_pos rfl)⟩

/-- A format with the name of the month, which keeps a date before 1970. -/
theorem fixValues_date_named :
    ∃ s, Schema.ofConfig (dueConfig "%d %b %Y") = .ok s ∧
      (fixValues s (dueItem "1950/01/02")).1.fields.find? "due" = some (.string "02 Jan 1950") ∧
      DateFormat.read? "%d %b %Y" "02 Jan 1950" = DateFormat.readAlternate? "1950/01/02" := by
  have hcheck : (DateFormat.check "%d %b %Y").isOk = true := by decide +kernel
  obtain ⟨s, hs, hf⟩ := ofConfig_dueConfig (by decide) hcheck
  have hcanonical : canonical? (dueField "%d %b %Y") "1950/01/02" = some "02 Jan 1950" := by
    decide +kernel
  have hold := find?_dueItem "1950/01/02"
  have hnew := (find?_fixValues s hold).trans
    (congrArg some (restated_string hf (by decide) hcanonical))
  obtain ⟨d, p, -, hp, -, -, hseparated, -⟩ := fixValues_date hs hf rfl hold hnew (by decide)
  have hpattern : DatePattern.ofText? "%d %b %Y" = some [.number .day .zeros, .space ' ',
      .text .shortMonth, .space ' ', .number .year .zeros] := by decide +kernel
  obtain rfl := Option.some.inj (hp.symm.trans hpattern)
  exact ⟨s, hs, hnew, hseparated ⟨⟨rfl, rfl, rfl⟩, rfl, rfl⟩⟩

/-- A format with two digits of the year, which turns 1950 into 2050. -/
theorem fixValues_date_shortened :
    ∃ s, Schema.ofConfig (dueConfig "%y-%m-%d") = .ok s ∧
      s.field? "due" = some (dueField "%y-%m-%d") ∧
      (fixValues s (dueItem "1950/01/02")).1.fields.find? "due" = some (.string "50-01-02") ∧
      DateFormat.read? "%y-%m-%d" "50-01-02" = Date.ofYmd? 2050 1 2 ∧
      DateFormat.readAlternate? "1950/01/02" = Date.ofYmd? 1950 1 2 ∧
      Date.ofYmd? 2050 1 2 ≠ Date.ofYmd? 1950 1 2 := by
  have hcheck : (DateFormat.check "%y-%m-%d").isOk = true := by decide +kernel
  obtain ⟨s, hs, hf⟩ := ofConfig_dueConfig (by decide) hcheck
  have hcanonical : canonical? (dueField "%y-%m-%d") "1950/01/02" = some "50-01-02" := by
    decide +kernel
  have hnew := (find?_fixValues s (find?_dueItem "1950/01/02")).trans
    (congrArg some (restated_string hf (by decide) hcanonical))
  exact ⟨s, hs, hf, hnew, by decide +kernel, by decide +kernel, by decide⟩

end Repair

end WorkItems
