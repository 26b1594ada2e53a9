import WorkItems.Proofs.Repair.FilledDefaults
import WorkItems.Proofs.Repair.Idempotent
import WorkItems.Proofs.Text.Bytes
/-!
# Defaults fill exactly the gaps

A gap is a field of its own that an item has not filled in and that has a default (`Repair.IsGap`).
Filling comes to every field of the schema once, in the order of their names, and what it puts into
one field changes nothing about the others. So it fills the gaps that there were before, and only
these, and what it puts there is never empty. Behind it no gap is left, on any day.
-/

namespace WorkItems

namespace Repair

variable {s : Schema} {today : Date} {item filled : Item} {fs : List Field} {names : List String}

/-! ## A run over fields -/

/-- The names of what is filled in come in the order of the fields. -/
theorem fillFields_sublist (h : fillFields today item fs = (filled, .ok names)) :
    names.Sublist (fs.map Field.name) := by
  induction fs generalizing item names with
  | nil =>
      cases h
      exact List.Sublist.refl _
  | cons f fs ih =>
      rcases fillFields_cons_eq_ok h with ⟨-, hfill⟩ | ⟨v, more, -, rfl, hfill⟩
      · exact (ih hfill).cons _
      · exact (ih hfill).cons_cons _

/-- Filling in nothing leaves the item as it is. -/
theorem fillFields_eq_self (h : fillFields today item fs = (filled, .ok [])) : filled = item := by
  induction fs with
  | nil =>
      cases h
      rfl
  | cons f fs ih =>
      rcases fillFields_cons_eq_ok h with ⟨-, hfill⟩ | ⟨v, more, -, hnames, -⟩
      · exact ih hfill
      · cases hnames

theorem find?_insert_of_ne {key name : String} (hne : key ≠ name) (v : Value) :
    (item.fields.insert key v).find? name = item.fields.find? name :=
  (Entries.find?_insert ..).trans (if_neg hne)

/-- A field whose name is not given was left alone. -/
theorem find?_fillFields_of_notMem (h : fillFields today item fs = (filled, .ok names))
    {name : String} (hname : name ∉ names) : filled.fields.find? name = item.fields.find? name := by
  induction fs generalizing item names with
  | nil =>
      cases h
      rfl
  | cons f fs ih =>
      rcases fillFields_cons_eq_ok h with ⟨-, hfill⟩ | ⟨v, more, -, rfl, hfill⟩
      · exact ih hfill hname
      · obtain ⟨hne, hmore⟩ := not_or.1 (mt List.mem_cons.2 hname)
        exact (ih hfill hmore).trans (find?_insert_of_ne (Ne.symm hne) v)

/-- Another field does not matter to whether there is a gap. -/
theorem isGap_insert_iff {f : Field} {key : String} {u v : Value} (hne : key ≠ f.name) :
    IsGap today { item with fields := item.fields.insert key u } f v ↔ IsGap today item f v := by
  have hfilled : isFilled { item with fields := item.fields.insert key u } f.name =
      isFilled item f.name := by
    rw [isFilled, isFilled, find?_insert_of_ne hne]
  constructor
  · rintro ⟨hown, hempty, hdefault⟩
    exact ⟨hown, hfilled ▸ hempty, hdefault⟩
  · rintro ⟨hown, hempty, hdefault⟩
    exact ⟨hown, hfilled ▸ hempty, hdefault⟩

theorem IsGap.value_eq {f : Field} {v w : Value} (h : IsGap today item f v)
    (h' : IsGap today item f w) : v = w :=
  Option.some.inj (Except.ok.inj (h.default.symm.trans h'.default))

/-- A gap holds its default afterwards. -/
theorem find?_fillFields_of_isGap (hnodup : (fs.map Field.name).Nodup)
    (h : fillFields today item fs = (filled, .ok names)) {f : Field} (hf : f ∈ fs) {v : Value}
    (hgap : IsGap today item f v) : f.name ∈ names ∧ filled.fields.find? f.name = some v := by
  induction fs generalizing item names with
  | nil => cases hf
  | cons g fs ih =>
      obtain ⟨hnotin, hrest⟩ := List.nodup_cons.1 hnodup
      have hne : f ∈ fs → g.name ≠ f.name := by
        intro hmem heq
        exact hnotin (heq ▸ List.mem_map_of_mem hmem)
      rcases fillFields_cons_eq_ok h with ⟨hsettled, hfill⟩ | ⟨u, more, hfirst, rfl, hfill⟩
      · rcases List.mem_cons.1 hf with rfl | hf
        · exact absurd hgap (hsettled.not_isGap v)
        · exact ih hrest hfill hf hgap
      · rcases List.mem_cons.1 hf with rfl | hf
        · have hmore : f.name ∉ more := fun hmem => hnotin ((fillFields_sublist hfill).subset hmem)
          refine ⟨List.mem_cons_self .., ?_⟩
          rw [find?_fillFields_of_notMem hfill hmore, hfirst.value_eq hgap]
          exact (Entries.find?_insert ..).trans (if_pos rfl)
        · obtain ⟨hmem, hfind⟩ := ih hrest hfill hf ((isGap_insert_iff (hne hf)).2 hgap)
          exact ⟨List.mem_cons_of_mem _ hmem, hfind⟩

/-- Only gaps are filled. -/
theorem exists_isGap_of_mem (hnodup : (fs.map Field.name).Nodup)
    (h : fillFields today item fs = (filled, .ok names)) {name : String} (hname : name ∈ names) :
    ∃ f ∈ fs, f.name = name ∧ ∃ v, IsGap today item f v := by
  induction fs generalizing item names with
  | nil =>
      cases h
      cases hname
  | cons g fs ih =>
      obtain ⟨hnotin, hrest⟩ := List.nodup_cons.1 hnodup
      rcases fillFields_cons_eq_ok h with ⟨-, hfill⟩ | ⟨u, more, hfirst, rfl, hfill⟩
      · obtain ⟨f, hf, hgap⟩ := ih hrest hfill hname
        exact ⟨f, List.mem_cons_of_mem _ hf, hgap⟩
      · rcases List.mem_cons.1 hname with rfl | hmore
        · exact ⟨g, List.mem_cons_self .., rfl, u, hfirst⟩
        · obtain ⟨f, hf, hfname, v, hgap⟩ := ih hrest hfill hmore
          have hne : g.name ≠ f.name := fun heq => hnotin (heq ▸ List.mem_map_of_mem hf)
          exact ⟨f, List.mem_cons_of_mem _ hf, hfname, v, (isGap_insert_iff hne).1 hgap⟩

/-! ## The fields of a schema -/

theorem map_name_values (hnames : s.NamesFields) :
    s.fields.values.map Field.name = s.fields.keys := by
  rw [Dict.values, Dict.keys, List.map_map]
  exact List.map_congr_left hnames

/-- The names of the fields ascend. -/
theorem pairwise_map_name (hnames : s.NamesFields) :
    (s.fields.values.map Field.name).Pairwise (· < ·) := by
  rw [map_name_values hnames]
  exact List.pairwise_map.2 s.fields.sorted

theorem nodup_map_name (hnames : s.NamesFields) : (s.fields.values.map Field.name).Nodup := by
  have hne : ∀ {a b : String}, a < b → a ≠ b := by
    rintro a _ hlt rfl
    exact String.lt_irrefl a hlt
  exact (pairwise_map_name hnames).imp hne

theorem mem_values_iff_field? (hnames : s.NamesFields) {f : Field} {name : String} :
    s.field? name = some f ↔ f ∈ s.fields.values ∧ f.name = name := by
  constructor
  · intro hf
    exact ⟨mem_values_of_field? hf, hnames _ (Entries.mem_of_find? hf)⟩
  · rintro ⟨hf, rfl⟩
    obtain ⟨e, he, rfl⟩ := List.mem_map.1 hf
    rw [hnames e he]
    exact (Entries.find?_eq_some_iff s.fields.sorted).2 he

/-! ## Fields that an item must have -/

/-- The five fields do not count among those that an item must have. -/
theorem isCoreName_of_isRequired {c : Config} (hs : Schema.ofConfig c = .ok s) {name : String}
    (h : s.isRequired name = true) : isCoreName name = false := by
  rw [Schema.ofConfig] at hs
  obtain ⟨fields, -, hs⟩ := exists_of_bind_eq_ok hs
  dsimp only at hs
  split at hs
  · cases hs
  · obtain rfl := Except.ok.inj hs
    obtain ⟨u, hu⟩ := Option.isSome_iff_exists.1 h
    have hmem := Entries.mem_ofList (Entries.mem_of_find? hu)
    obtain ⟨required, hrequired, heq⟩ := List.mem_map.1 hmem
    cases heq
    simpa using (List.mem_filter.1 hrequired).2

/-- A field is missing if it is one of the five and blank, or required and not filled. -/
theorem missing_mem_complaints {day : Date} {name : String}
    (h : Complaint.missing name ∈ s.complaints day item) :
    isCoreName name = true ∨ isFilled item name = false := by
  simp only [Schema.complaints, List.mem_append] at h
  rcases h with ((((hcore | hid) | hstatus) | hcreated) | hmissing) | hfield
  · obtain ⟨field, -, heq⟩ := List.mem_map.1 hcore
    cases heq
    exact .inl (isCoreName_name field)
  · rw [Schema.idComplaints] at hid
    split at hid
    · cases hid
    · cases List.mem_singleton.1 hid
  · rw [Schema.statusComplaints] at hstatus
    split at hstatus
    · cases hstatus
    · cases List.mem_singleton.1 hstatus
  · rw [Schema.createdComplaints] at hcreated
    split at hcreated
    · cases hcreated
    · cases List.mem_singleton.1 hcreated
  · obtain ⟨required, hrequired, heq⟩ := List.mem_map.1 hmissing
    cases heq
    refine .inr ?_
    have hvacant := (List.mem_filter.1 hrequired).2
    rw [isFilled]
    cases hfind : item.fields.find? name with
    | none => rfl
    | some v =>
        rw [hfind] at hvacant
        simpa using hvacant
  · obtain ⟨⟨key, v⟩, -, hcomplaint⟩ := List.mem_filterMap.1 hfield
    rw [Schema.fieldComplaint?] at hcomplaint
    split at hcomplaint
    · split at hcomplaint <;> cases hcomplaint
    · split at hcomplaint
      · cases hcomplaint
      · split at hcomplaint <;> cases hcomplaint

/-- A settled field with a default that is filled in is filled. -/
theorem IsSettled.isFilled {f : Field} (h : IsSettled today item f)
    (hcore : isCoreName f.name = false) {v : Value} (hdefault : f.default? = some v)
    (hv : v.isVacant = false) : isFilled item f.name = true := by
  obtain hname | hfilled | hnone := h
  · rw [hname] at hcore
    cases hcore
  · exact hfilled
  · rw [Schema.resolveDefault, Field.resolveDefault, hdefault] at hnone
    simp only [hv] at hnone
    cases hcoerce : f.coerceDefault today v with
    | error e =>
        rw [hcoerce] at hnone
        cases hnone
    | ok w =>
        rw [hcoerce] at hnone
        cases Except.ok.inj hnone

/-! ## Filling -/

/--
Filling the fields of an item adds exactly the gaps, in ascending order of the octets of their
names. Each of them then holds its default, which is not empty, and everything else is as it was. So
no required field with a default that is filled in is missing, and filling again on any day adds
nothing.
-/
theorem applyDefaults_fills_gaps {c : Config} {added : List String} (hs : Schema.ofConfig c = .ok s)
    (h : applyDefaults s today item = (filled, .ok added)) :
    (∀ name, name ∈ added ↔ ∃ f, s.field? name = some f ∧ ∃ v, IsGap today item f v) ∧
    added.Pairwise (fun a b => Text.bytes a < Text.bytes b) ∧
    (∀ name f v, s.field? name = some f → IsGap today item f v →
      filled.fields.find? name = some v ∧ v.isVacant = false) ∧
    (∀ name, name ∉ added → filled.fields.find? name = item.fields.find? name) ∧
    (∀ field : CoreField, filled.core field = item.core field) ∧
    (∀ name f v, s.isRequired name = true → s.field? name = some f → f.default? = some v →
      v.isVacant = false → ∀ day, Complaint.missing name ∉ s.complaints day filled) ∧
    ∀ later, applyDefaults s later filled = (filled, .ok []) := by
  have hnames := Schema.namesFields_of_ofConfig hs
  have hshows := Schema.showsDates_of_ofConfig hs
  have hnodup := nodup_map_name hnames
  obtain ⟨-, hsettled⟩ := fillFields_spec hshows h
  refine ⟨?_, ?_, ?_, ?_, ?_, ?_, ?_⟩
  · intro name
    constructor
    · intro hname
      obtain ⟨f, hf, hfname, v, hgap⟩ := exists_isGap_of_mem hnodup h hname
      exact ⟨f, (mem_values_iff_field? hnames).2 ⟨hf, hfname⟩, v, hgap⟩
    · rintro ⟨f, hf, v, hgap⟩
      obtain ⟨hmem, rfl⟩ := (mem_values_iff_field? hnames).1 hf
      exact (find?_fillFields_of_isGap hnodup h hmem hgap).1
  · have hascending := (pairwise_map_name hnames).sublist (fillFields_sublist h)
    exact hascending.imp Text.lt_iff_bytes_lt.1
  · intro name f v hf hgap
    obtain ⟨hmem, rfl⟩ := (mem_values_iff_field? hnames).1 hf
    exact ⟨(find?_fillFields_of_isGap hnodup h hmem hgap).2,
      isVacant_of_schemaResolveDefault (hshows f hmem) hgap.default⟩
  · intro name hname
    exact find?_fillFields_of_notMem h hname
  · intro field
    have hfilled : filled = (fillFields today item s.fields.values).1 := (congrArg Prod.fst h).symm
    rw [hfilled, core_fillFields]
  · intro name f v hrequired hf hdefault hv day hmissing
    have hcore := isCoreName_of_isRequired hs hrequired
    obtain ⟨hmem, rfl⟩ := (mem_values_iff_field? hnames).1 hf
    have hisFilled := (hsettled f hmem).isFilled hcore hdefault hv
    rcases missing_mem_complaints hmissing with hname | hempty
    · rw [hname] at hcore
      cases hcore
    · rw [hempty] at hisFilled
      cases hisFilled
  · intro later
    exact fillFields_of_isSettled fun f hf => (hsettled f hf).other later

/-- An item without a level gets the allowed one, and on another day nothing more. -/
theorem applyDefaults_fills_gaps_level :
    ∃ s filled, Schema.ofConfig levelConfig = .ok s ∧
      applyDefaults s DateFormat.january Item.empty = (filled, .ok ["level"]) ∧
      (∃ f v, s.field? "level" = some f ∧ IsGap DateFormat.january Item.empty f v ∧
        v.isVacant = false ∧ filled.fields.find? "level" = some v) ∧
      applyDefaults s DateFormat.november filled = (filled, .ok []) := by
  have hschema : (Schema.ofConfig levelConfig).toOption.map (fun s =>
      (applyDefaults s DateFormat.january Item.empty).2.toOption.map id) =
        some (some ["level"]) := by
    decide +kernel
  obtain ⟨s, hs, hadded⟩ := exists_ok hschema
  obtain ⟨names, hresult, rfl⟩ := exists_ok hadded
  have h : applyDefaults s DateFormat.january Item.empty = (_, .ok ["level"]) :=
    Prod.ext rfl hresult
  obtain ⟨hmem, -, hvalue, -, -, -, hagain⟩ := applyDefaults_fills_gaps hs h
  obtain ⟨f, hf, v, hgap⟩ := (hmem "level").1 (List.mem_singleton_self _)
  obtain ⟨hfind, hvacant⟩ := hvalue "level" f v hf hgap
  exact ⟨s, _, hs, h, ⟨f, v, hf, hgap, hvacant, hfind⟩, hagain DateFormat.november⟩

end Repair

end WorkItems
