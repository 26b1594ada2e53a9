import WorkItems.Audit.Complaint
import WorkItems.Proofs.Repair.CoreNames
import WorkItems.Proofs.Repair.Dates
import WorkItems.Proofs.Repair.Defaults
import WorkItems.Proofs.Schema.Check
/-!
# What is wrong with a filled-in default

A default is made a value of the type of its field, and that is all that is asked of it: a text that
is no number, no date in the format of the field or none of the allowed values is refused. So what
is filled in is of the right kind, an allowed value is accepted for sure, and a written date is one.
The other conditions of a field (patterns, lengths, bounds, elements, addresses and URLs) are not
looked at before the value is checked, and they alone can make a filled-in value a violation.
-/

namespace WorkItems

/-! ## Defaults that are resolved -/

namespace Field

variable {f : Field} {today : Date} {v w : Value} {s : String}

/-- What a default becomes is of the kind of the field. -/
theorem hasKind_coerceDefault (h : f.coerceDefault today v = .ok w) : f.HasKind w := by
  have hscalar : ∀ {g : String → Except DefaultFault Value},
      (∀ text u, g text = .ok u → ∃ s, u = .string s) → (do g (← scalarText v)) = .ok w →
        ∃ s, w = .string s := by
    intro g hg hw
    obtain ⟨text, -, hw⟩ := exists_of_bind_eq_ok hw
    exact hg text w hw
  rw [coerceDefault] at h
  rw [HasKind]
  cases htype : f.fieldType <;> simp only [htype] at h ⊢
  case number =>
      rw [numberDefault.eq_def] at h
      split at h
      · obtain rfl := Except.ok.inj h
        exact ⟨_, rfl⟩
      · split at h
        · obtain rfl := Except.ok.inj h
          exact ⟨_, rfl⟩
        · cases h
      · cases h
  case array =>
      rw [arrayDefault.eq_def] at h
      split at h
      · obtain rfl := Except.ok.inj h
        exact ⟨_, rfl⟩
      · cases h
      · obtain rfl := Except.ok.inj h
        exact ⟨_, rfl⟩
  case date =>
      refine hscalar (fun text u hu => ?_) h
      rw [dateDefault] at hu
      split at hu
      · exact ⟨_, (Except.ok.inj hu).symm⟩
      · split at hu
        · exact ⟨_, (Except.ok.inj hu).symm⟩
        · cases hu
  case enumeration =>
      refine hscalar (fun text u hu => ?_) h
      rw [allowedDefault] at hu
      split at hu
      · exact ⟨_, (Except.ok.inj hu).symm⟩
      · cases hu
  all_goals exact hscalar (fun text u hu => ⟨text, (Except.ok.inj hu).symm⟩) h

/--
An allowed value is one, and a text for a date is a date unless it is written for the word of the
day.
-/
theorem checked_coerceDefault (h : f.coerceDefault today v = .ok (.string s)) :
    (f.fieldType = .enumeration → s ∈ f.config.allowedValues) ∧
      (f.fieldType = .date → s = DateFormat.write f.dateFormat today ∨
        ∃ d, DateFormat.read? f.dateFormat s = some d) := by
  constructor
  · intro htype
    simp only [coerceDefault, htype] at h
    obtain ⟨text, -, h⟩ := exists_of_bind_eq_ok h
    rw [allowedDefault] at h
    split at h
    · rename_i value hvalue
      obtain rfl := Value.string.inj (Except.ok.inj h)
      exact (allowed?_spec hvalue).1
    · cases h
  · intro htype
    simp only [coerceDefault, htype] at h
    obtain ⟨text, -, h⟩ := exists_of_bind_eq_ok h
    rw [dateDefault] at h
    split at h
    · exact .inl (Value.string.inj (Except.ok.inj h)).symm
    · split at h
      · rename_i hread
        obtain rfl := Value.string.inj (Except.ok.inj h)
        exact .inr (Option.isSome_iff_exists.1 hread)
      · cases h

/-- A default that is resolved comes from one that is configured and filled in. -/
theorem resolveDefault_eq_some (h : f.resolveDefault today = .ok (some w)) :
    ∃ v, f.default? = some v ∧ v.isVacant = false ∧ f.coerceDefault today v = .ok w := by
  rw [resolveDefault] at h
  split at h
  · cases h
  · rename_i v hv
    split at h
    · cases h
    · rename_i hfilled
      cases hcoerce : f.coerceDefault today v with
      | error e =>
          rw [hcoerce] at h
          cases h
      | ok u =>
          rw [hcoerce] at h
          obtain rfl := Option.some.inj (Except.ok.inj h)
          exact ⟨v, hv, Bool.eq_false_iff.2 hfilled, hcoerce⟩

/-- An allowed value is accepted for sure. -/
theorem meets_of_allowed {s : String} (htype : f.fieldType = .enumeration)
    (h : s ∈ f.config.allowedValues) : f.Meets today (.string s) := by
  simp only [Meets, htype, allowed?_self h]
  rfl

end Field

/-! ## Items that are filled -/

/-- Every field of a schema stands under its own name. -/
def Schema.NamesFields (s : Schema) : Prop := ∀ e ∈ s.fields.entries, e.2.name = e.1

theorem Schema.namesFields_of_ofConfig {c : Config} {s : Schema} (h : ofConfig c = .ok s) :
    s.NamesFields := by
  rw [ofConfig] at h
  obtain ⟨fields, hfields, h⟩ := exists_of_bind_eq_ok h
  dsimp only at h
  split at h
  · cases h
  · obtain rfl := Except.ok.inj h
    intro e he
    obtain ⟨d, hd⟩ := mem_compileFields hfields (Entries.mem_ofList he)
    exact (Field.isMadeFrom_of_ofConfig hd).name

namespace Repair

variable {s : Schema} {today : Date}

/--
Where an entry of a filled item comes from: from the item before, or from the default of its field.
-/
theorem find?_fillFields {fs : List Field} : ∀ {item filled : Item} {names : List String},
    fillFields today item fs = (filled, .ok names) → ∀ name v, filled.fields.find? name = some v →
      item.fields.find? name = some v ∨ ∃ f ∈ fs, f.name = name ∧ name ∈ names ∧
        Schema.resolveDefault f today = .ok (some v) := by
  induction fs with
  | nil =>
      intro item filled names h name v hv
      cases h
      exact .inl hv
  | cons f fs ih =>
      intro item filled names h name v hv
      have hlater : ∀ {more : List String}, more ⊆ names →
          (∃ g ∈ fs, g.name = name ∧ name ∈ more ∧ Schema.resolveDefault g today = .ok (some v)) →
            ∃ g ∈ f :: fs, g.name = name ∧ name ∈ names ∧
              Schema.resolveDefault g today = .ok (some v) := by
        rintro more hmore ⟨g, hg, hname, hmem, hresolve⟩
        exact ⟨g, List.mem_cons_of_mem _ hg, hname, hmore hmem, hresolve⟩
      rcases fillFields_cons_eq_ok h with ⟨-, hfill⟩ | ⟨u, more, hgap, rfl, hfill⟩
      · exact (ih hfill name v hv).imp_right (hlater (List.Subset.refl _))
      · rcases ih hfill name v hv with hbefore | hafter
        · change Entries.find? name (Entries.insert f.name u item.fields.entries) = _ at hbefore
          rw [Entries.find?_insert] at hbefore
          split at hbefore
          · rename_i heq
            obtain rfl := Option.some.inj hbefore
            exact .inr ⟨f, List.mem_cons_self .., heq, heq ▸ List.mem_cons_self .., hgap.default⟩
          · exact .inl hbefore
        · exact .inr (hlater (List.subset_cons_self ..) hafter)

/-- Filling keeps the value of a field that is filled. -/
theorem find?_fillFields_of_isFilled {fs : List Field} {name : String} : ∀ {item : Item},
    isFilled item name = true → (fillFields today item fs).1.fields.find? name =
      item.fields.find? name := by
  induction fs with
  | nil =>
      intro item _
      rfl
  | cons f fs ih =>
      intro item hname
      rw [fillFields]
      split
      · exact ih hname
      · rename_i hskip
        split
        · rfl
        · exact ih hname
        · rename_i v _
          have hne : f.name ≠ name := by
            rintro rfl
            exact hskip (by rw [hname, Bool.or_true])
          have hfind : (item.fields.insert f.name v).find? name = item.fields.find? name :=
            (Entries.find?_insert ..).trans (if_neg hne)
          have hkeep : isFilled { item with fields := item.fields.insert f.name v } name =
              true := by
            rw [isFilled, hfind]
            exact hname
          exact (ih hkeep).trans hfind

/-- What is missing from a filled item was missing before. -/
theorem mem_missingFields_fillFields {fs : List Field} {item : Item} {c : Complaint}
    (h : c ∈ s.missingFields (fillFields today item fs).1) : c ∈ s.missingFields item := by
  obtain ⟨name, hname, rfl⟩ := List.mem_map.1 h
  obtain ⟨hrequired, hvacant⟩ := List.mem_filter.1 hname
  refine List.mem_map_of_mem (List.mem_filter.2 ⟨hrequired, ?_⟩)
  cases hfilled : isFilled item name with
  | true =>
      rw [find?_fillFields_of_isFilled hfilled] at hvacant
      exact hvacant
  | false =>
      rw [isFilled] at hfilled
      cases hfind : item.fields.find? name with
      | none => rfl
      | some v =>
          rw [hfind] at hfilled
          simpa using hfilled

/-- A complaint about the five fields stays one, because filling does not touch them. -/
theorem complaints_core {filled item : Item}
    (h : ∀ field : CoreField, filled.core field = item.core field) :
    Schema.missingCore filled = Schema.missingCore item ∧
      s.idComplaints filled = s.idComplaints item ∧
      s.statusComplaints filled = s.statusComplaints item ∧
      Schema.createdComplaints filled = Schema.createdComplaints item := by
  have hid : filled.id = item.id := h .id
  have hstatus : filled.status = item.status := h .status
  have hcreated : filled.created = item.created := h .created
  refine ⟨?_, ?_, ?_, ?_⟩
  · simp only [Schema.missingCore, h]
  · rw [Schema.idComplaints, Schema.idComplaints, hid]
  · rw [Schema.statusComplaints, Schema.statusComplaints, hstatus]
  · rw [Schema.createdComplaints, Schema.createdComplaints, hcreated]

/-- The complaint is about the default of a field that does not meet what the field asks for. -/
def RefusesDefault (today : Date) (f : Field) (c : Complaint) : Prop :=
  ∃ v e, f.resolveDefault today = .ok (some v) ∧ ¬f.Meets today v ∧
    f.check today v = .error e ∧ c = .violation f.name e

/-- A complaint about a value that was filled in is one about the default. -/
theorem refusesDefault_of_fieldComplaint? {f : Field} {v : Value} {c : Complaint}
    (hs : s.NamesFields) (hf : f ∈ s.fields.values)
    (hv : Schema.resolveDefault f today = .ok (some v))
    (hc : s.fieldComplaint? today f.name v = some c) : RefusesDefault today f c := by
  obtain ⟨e, he, rfl⟩ := List.mem_map.1 hf
  have hresolve : e.2.resolveDefault today = .ok (some v) := by
    rw [Schema.resolveDefault] at hv
    cases hresult : e.2.resolveDefault today with
    | error fault =>
        rw [hresult] at hv
        cases hv
    | ok w =>
        rw [hresult] at hv
        exact congrArg Except.ok (Except.ok.inj hv)
  have hfield : s.field? e.2.name = some e.2 := by
    rw [hs e he]
    exact (Entries.find?_eq_some_iff s.fields.sorted).2 he
  obtain ⟨w, -, -, hcoerce⟩ := Field.resolveDefault_eq_some hresolve
  rw [Schema.fieldComplaint?, hfield] at hc
  dsimp only at hc
  split at hc
  · cases hc
  · split at hc
    · cases hc
    · rename_i fault hfault
      refine ⟨v, fault, hresolve, fun hmeets => ?_, hfault, (Option.some.inj hc).symm⟩
      rw [(Field.check_eq_ok_iff (Field.hasKind_coerceDefault hcoerce)).2 hmeets] at hfault
      cases hfault

/-- Every complaint about a filled item was one before, or is about a default that was filled in. -/
theorem mem_complaints_fillFields {item filled : Item} {names : List String} (hs : s.NamesFields)
    (h : applyDefaults s today item = (filled, .ok names)) {c : Complaint}
    (hc : c ∈ s.complaints today filled) :
    c ∈ s.complaints today item ∨
      ∃ f ∈ s.fields.values, f.name ∈ names ∧ RefusesDefault today f c := by
  have hfilled : filled = (fillFields today item s.fields.values).1 :=
    (congrArg Prod.fst h).symm
  have hcore : ∀ field : CoreField, filled.core field = item.core field := by
    intro field
    rw [hfilled, core_fillFields]
  obtain ⟨hmissing, hid, hstatus, hcreated⟩ := complaints_core (s := s) hcore
  simp only [Schema.complaints, hmissing, hid, hstatus, hcreated, List.mem_append] at hc ⊢
  rcases hc with (hc | hc) | hc
  · exact .inl (.inl (.inl hc))
  · rw [hfilled] at hc
    exact .inl (.inl (.inr (mem_missingFields_fillFields hc)))
  · obtain ⟨⟨name, v⟩, hmem, hc⟩ := List.mem_filterMap.1 hc
    have hfind := (Entries.find?_eq_some_iff filled.fields.sorted).2 hmem
    rcases find?_fillFields h name v hfind with hbefore | ⟨f, hf, rfl, hname, hresolve⟩
    · exact .inl (.inr (List.mem_filterMap.2 ⟨(name, v), Entries.mem_of_find? hbefore, hc⟩))
    · exact .inr ⟨f, hf, hname, refusesDefault_of_fieldComplaint? hs hf hresolve hc⟩

end Repair

/--
A default that is resolved is of the kind of its field, one of the allowed values if there are some,
and the date of the day or a date in the format of the field. It is a valid value exactly if it also
meets the conditions that resolving does not look at. So filling in defaults that have been checked
brings no complaint but about defaults that do not meet these.
-/
theorem resolved_defaults_fit :
    (∀ (f : Field) (today : Date) (v : Value), f.resolveDefault today = .ok (some v) →
      f.HasKind v ∧ (f.check today v = .ok () ↔ f.Meets today v) ∧
        (f.fieldType = .enumeration → f.check today v = .ok ()) ∧
        (f.fieldType = .date → ∃ s, v = .string s ∧ (s = DateFormat.write f.dateFormat today ∨
          ∃ d, DateFormat.read? f.dateFormat s = some d))) ∧
    ∀ (c : Config) (s : Schema) (today : Date), Schema.ofConfig c = .ok s →
      s.checkDefaults today = .ok () → ∀ item : Item, ∃ filled names,
        Repair.applyDefaults s today item = (filled, .ok names) ∧
          ∀ complaint ∈ s.complaints today filled, complaint ∈ s.complaints today item ∨
            ∃ f ∈ s.fields.values, f.name ∈ names ∧ Repair.RefusesDefault today f complaint := by
  constructor
  · intro f today v h
    obtain ⟨w, -, -, hcoerce⟩ := Field.resolveDefault_eq_some h
    have hkind := Field.hasKind_coerceDefault hcoerce
    refine ⟨hkind, Field.check_eq_ok_iff hkind, fun htype => ?_, fun htype => ?_⟩
    · have htext : ∃ s, v = .string s := by simpa only [Field.HasKind, htype] using hkind
      obtain ⟨s, rfl⟩ := htext
      have hallowed := (Field.checked_coerceDefault hcoerce).1 htype
      exact (Field.check_eq_ok_iff hkind).2 (Field.meets_of_allowed htype hallowed)
    · have htext : ∃ s, v = .string s := by simpa only [Field.HasKind, htype] using hkind
      obtain ⟨s, rfl⟩ := htext
      exact ⟨s, rfl, (Field.checked_coerceDefault hcoerce).2 htype⟩
  · intro c s today hs hdefaults item
    obtain ⟨filled, names, hfill⟩ :=
      Repair.fillFields_ok (Schema.resolveDefault_ok_of_checkDefaults hdefaults) item
    refine ⟨filled, names, hfill, fun complaint hcomplaint => ?_⟩
    exact Repair.mem_complaints_fillFields (Schema.namesFields_of_ofConfig hs) hfill hcomplaint

/-- A project whose items have a level, which is written in another case than the allowed one. -/
def levelConfig : Config :=
  { Config.ofName "p" with
    fields := .ofList [("level", {
      fieldType := .enumeration
      default := some (.string "High")
      allowedValues := ["low", "high"]
      caseSensitive := some false })]
    validation := { idFormat := "[0-9]" } }

theorem resolved_defaults_fit_level :
    ∃ (s : Schema) (f : Field) (v : Value),
      Schema.ofConfig levelConfig = .ok s ∧ s.checkDefaults DateFormat.january = .ok () ∧
      f.resolveDefault DateFormat.january = .ok (some v) ∧ v.string? = some "high" ∧
      f.check DateFormat.january v = .ok () ∧
      ∃ filled names, Repair.applyDefaults s DateFormat.january Item.empty = (filled, .ok names) ∧
        ∀ complaint ∈ s.complaints DateFormat.january filled,
          complaint ∈ s.complaints DateFormat.january Item.empty ∨
            ∃ f ∈ s.fields.values, f.name ∈ names ∧
              Repair.RefusesDefault DateFormat.january f complaint := by
  have hschema : (Schema.ofConfig levelConfig).toOption.map (fun s =>
      ((s.checkDefaults DateFormat.january).isOk,
        (s.field? "level").map fun f => (f.fieldType,
          (f.resolveDefault DateFormat.january).toOption.map fun v => v.bind Value.string?))) =
      some (true, some (.enumeration, some (some "high"))) := by decide +kernel
  obtain ⟨s, hs, hcompiled⟩ := exists_ok hschema
  obtain ⟨hdefaults, hfield⟩ := Prod.mk.inj hcompiled
  obtain ⟨f, -, hresolved⟩ := Option.map_eq_some_iff.1 hfield
  obtain ⟨htype, hresolved⟩ := Prod.mk.inj hresolved
  obtain ⟨resolved, hresolve, htext⟩ := exists_ok hresolved
  obtain ⟨v, rfl, hv⟩ := Option.bind_eq_some_iff.1 htext
  have hok : s.checkDefaults DateFormat.january = .ok () := by
    cases hcheck : s.checkDefaults DateFormat.january with
    | error e =>
        rw [hcheck] at hdefaults
        cases hdefaults
    | ok u => rfl
  exact ⟨s, f, v, hs, hok, hresolve, hv, (resolved_defaults_fit.1 f _ v hresolve).2.2.1 htype,
    resolved_defaults_fit.2 levelConfig s _ hs hok Item.empty⟩

/-- A text of at least five characters with a default of three. -/
def shortNote : FieldConfig :=
  { fieldType := .string, default := some (.string "abc"), minLength := some 5 }

/-- The default is resolved, and is refused as a value. -/
theorem resolved_defaults_fit_shortNote :
    ∃ (f : Field) (v : Value) (e : Violation), Field.ofConfig "note" shortNote = .ok f ∧
      f.resolveDefault DateFormat.january = .ok (some v) ∧
      f.check DateFormat.january v = .error e := by
  refine ⟨_, .string "abc", .tooShort .string 3 5, rfl, rfl, ?_⟩
  rfl

end WorkItems
