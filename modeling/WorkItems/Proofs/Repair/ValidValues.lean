import WorkItems.Proofs.Repair.FilledDefaults
/-!
# Restating never breaks a valid value

What is accepted of a value and what it is restated to are found by different rules: an allowed
value is looked for in the text as it is, and restated from the trimmed text; an address is restated
in lower case whether it is an address or not; a date is accepted strictly and restated from other
formats. Still a valid value stays valid: a valid date is not restated at all, an allowed value is
one of the list and stands for itself, and an address has no blanks and is restated only as another
address. An empty value stays empty, and one that is not stays so too. So no complaint comes up that
was not there.
-/

namespace WorkItems

/-- The complaint is about a configurable field of this name, or about the lack of it. -/
def Complaint.IsAbout (name : String) : Complaint → Prop
  | missing field | violation field _ | unknownField field => field = name
  | badId _ _ | badStatus _ _ | badCreated _ => False

namespace Repair

variable {s : Schema} {f : Field} {today : Date} {item : Item} {name : String} {v : Value}

/-! ## One value -/

/-- The canonical form of a valid text is valid. -/
theorem check_canonical? {old new : String} (h : canonical? f old = some new)
    (hvalid : f.check today (.string old) = .ok ()) : f.check today (.string new) = .ok () := by
  have hkind : ∀ text, f.fieldType ≠ .number → f.fieldType ≠ .array → f.HasKind (.string text) := by
    intro text hnumber harray
    rw [Field.HasKind]
    cases htype : f.fieldType with
    | number => exact absurd htype hnumber
    | array => exact absurd htype harray
    | _ => exact ⟨text, rfl⟩
  rw [canonical?] at h
  cases htype : f.fieldType with
  | date =>
      -- A valid date is read strictly, and so it has no canonical form of its own.
      have hkind := hkind old (by simp [htype]) (by simp [htype])
      have hmeets := (Field.check_eq_ok_iff hkind).1 hvalid
      simp only [Field.Meets, htype] at hmeets
      obtain ⟨d, hd, -⟩ := hmeets
      simp only [htype, hd, Option.isSome_some, if_true] at h
      cases h
  | enumeration =>
      simp only [htype] at h
      have hkind := hkind new (by simp [htype]) (by simp [htype])
      exact (Field.check_eq_ok_iff hkind).2 (Field.meets_of_allowed htype (Field.allowed?_spec h).1)
  | email =>
      simp only [htype] at h
      obtain rfl := Option.some.inj h
      have hkind := fun text => hkind text (by simp [htype]) (by simp [htype])
      have hold := (Field.check_eq_ok_iff (hkind old)).1 hvalid
      refine (Field.check_eq_ok_iff (hkind _)).2 ?_
      simp only [Field.Meets, htype] at hold ⊢
      rcases canonicalEmail_cases old with ⟨heq, -⟩ | ⟨heq, hlower⟩
      · rw [heq, Email.strip_of_isValid hold]
        exact hold
      · rw [heq]
        exact hlower
  | _ =>
      simp only [htype] at h
      cases h

theorem check_restated (hf : s.field? name = some f) (h : f.check today v = .ok ()) :
    f.check today (restated s name v) = .ok () := by
  rw [restated]
  split
  · rename_i old new hnew
    obtain ⟨g, hg, rfl, -, hcanonical, -⟩ := restatement?_eq_some hnew
    obtain rfl := Option.some.inj (hf.symm.trans hg)
    exact check_canonical? hcanonical h
  · exact h

theorem restated_of_isVacant (h : v.isVacant = true) : restated s name v = v := by
  rw [restated]
  split
  · rename_i old new hnew
    obtain ⟨f, -, rfl, hblank, -, -⟩ := restatement?_eq_some hnew
    change Text.isBlankText old = true at h
    rw [hblank] at h
    cases h
  · rfl

/-- A value is empty behind the repair if and only if it was empty before. -/
theorem isVacant_restated_eq (hshows : ∀ f ∈ s.fields.values, f.ShowsDates) :
    (restated s name v).isVacant = v.isVacant := by
  cases hv : v.isVacant with
  | true => rw [restated_of_isVacant hv, hv]
  | false => exact isVacant_restated hshows hv

theorem restated_of_field?_eq_none (hf : s.field? name = none) : restated s name v = v := by
  rw [restated]
  split
  · rename_i old new hnew
    obtain ⟨f, hsome, -⟩ := restatement?_eq_some hnew
    rw [hf] at hsome
    cases hsome
  · rfl

theorem restated_of_string?_eq_none (hv : v.string? = none) : restated s name v = v := by
  rw [restated]
  split
  · rename_i old new hnew
    obtain ⟨f, -, rfl, -⟩ := restatement?_eq_some hnew
    cases hv
  · rfl

/-! ## An item -/

/-- The same fields are missing behind the repair as before. -/
theorem missingFields_fixValues (hshows : ∀ f ∈ s.fields.values, f.ShowsDates) :
    s.missingFields (fixValues s item).1 = s.missingFields item := by
  rw [Schema.missingFields, Schema.missingFields]
  refine congrArg _ (List.filter_congr fun name _ => ?_)
  rw [find?_fixValues_eq_map]
  cases item.fields.find? name with
  | none => rfl
  | some v => exact isVacant_restated_eq hshows

/-- A complaint about a restated value comes from one about the value before. -/
theorem exists_fieldComplaint? (hshows : ∀ f ∈ s.fields.values, f.ShowsDates) {c : Complaint}
    (h : s.fieldComplaint? today name (restated s name v) = some c) :
    ∃ c', s.fieldComplaint? today name v = some c' ∧ ∀ other, c.IsAbout other →
    c'.IsAbout other := by
  rw [Schema.fieldComplaint?] at h ⊢
  cases hf : s.field? name with
  | none =>
      rw [hf] at h
      exact ⟨c, h, fun _ => id⟩
  | some f =>
      rw [hf] at h
      simp only [isVacant_restated_eq hshows] at h
      cases hv : v.isVacant with
      | true =>
          simp only [hv, if_true] at h
          cases h
      | false =>
          simp only [hv, Bool.false_eq_true, if_false] at h ⊢
          cases hcheck : f.check today v with
          | ok u =>
              rw [check_restated hf hcheck] at h
              cases h
          | error e =>
              refine ⟨.violation f.name e, rfl, ?_⟩
              split at h
              · cases h
              · cases h
                exact fun _ => id

theorem exists_complaint (hshows : ∀ f ∈ s.fields.values, f.ShowsDates) {c : Complaint}
    (h : c ∈ s.complaints today (fixValues s item).1) :
    ∃ c' ∈ s.complaints today item, ∀ other, c.IsAbout other → c'.IsAbout other := by
  have hcore : ∀ field : CoreField, (fixValues s item).1.core field = item.core field := by
    intro field
    rw [core_fixValues]
  obtain ⟨hmissing, hid, hstatus, hcreated⟩ := complaints_core (s := s) hcore
  simp only [Schema.complaints, hmissing, hid, hstatus, hcreated, missingFields_fixValues hshows,
    List.mem_append] at h ⊢
  rcases h with h | h
  · exact ⟨c, .inl h, fun _ => id⟩
  · obtain ⟨⟨key, w⟩, hmem, hc⟩ := List.mem_filterMap.1 h
    obtain ⟨⟨key, v⟩, hold, heq⟩ := List.mem_map.1 hmem
    cases heq
    obtain ⟨c', hc', hname⟩ := exists_fieldComplaint? hshows hc
    exact ⟨c', .inr (List.mem_filterMap.2 ⟨(key, v), hold, hc'⟩), hname⟩

/-- A date of creation in the standard format stays as it is. -/
theorem fixCreated_of_readIso? (h : (DateFormat.readIso? item.created).isSome = true) :
    fixCreated item = (item, none) := by
  have hnone : newCreated? item.created = none := by
    rw [newCreated?, h, Bool.or_true]
    rfl
  rw [fixCreated, hnone]

/--
Restating the values of an item leaves every valid value valid: a value that passes its check passes
it afterwards, and an empty value stays as it is. So no complaint about a field comes up where there
was none before. A value that is filled in stays so, fields that the schema does not know and values
that are no texts are not touched, and neither is a date of creation in the standard format.
-/
theorem fixing_keeps_valid {c : Config} (hs : Schema.ofConfig c = .ok s) (today : Date)
    (item : Item) :
    (∀ name f v, s.field? name = some f → item.fields.find? name = some v →
      ∃ v', (fixValues s item).1.fields.find? name = some v' ∧
        (f.check today v = .ok () → f.check today v' = .ok ()) ∧ (v.isVacant = true → v' = v)) ∧
    (∀ name, (∀ complaint ∈ s.complaints today item, ¬complaint.IsAbout name) →
      ∀ complaint ∈ s.complaints today (fixValues s item).1, ¬complaint.IsAbout name) ∧
    (∀ name v, item.fields.find? name = some v → v.isVacant = false →
      ∃ v', (fixValues s item).1.fields.find? name = some v' ∧ v'.isVacant = false) ∧
    (∀ name, s.field? name = none →
      (fixValues s item).1.fields.find? name = item.fields.find? name) ∧
    (∀ name v, item.fields.find? name = some v → v.string? = none →
      (fixValues s item).1.fields.find? name = some v) ∧
    ((DateFormat.readIso? item.created).isSome = true → fixCreated item = (item, none)) := by
  have hshows := Schema.showsDates_of_ofConfig hs
  refine ⟨?_, ?_, ?_, ?_, ?_, fixCreated_of_readIso?⟩
  · intro name f v hf hv
    exact ⟨restated s name v, find?_fixValues s hv, check_restated hf, restated_of_isVacant⟩
  · intro name hfine complaint hcomplaint habout
    obtain ⟨before, hbefore, hname⟩ := exists_complaint hshows hcomplaint
    exact hfine before hbefore (hname name habout)
  · intro name v hv hfilled
    exact ⟨restated s name v, find?_fixValues s hv, isVacant_restated hshows hfilled⟩
  · intro name hf
    rw [find?_fixValues_eq_map]
    cases hfind : item.fields.find? name with
    | none => rfl
    | some v => exact congrArg some (restated_of_field?_eq_none hf)
  · intro name v hv hstring
    rw [find?_fixValues s hv, restated_of_string?_eq_none hstring]

/-- An item with an allowed level in another case. -/
def levelItem : Item := { Item.empty with fields := Dict.empty.insert "level" (.string "HIGH") }

/-- The level is valid before it is restated and after it. -/
theorem fixing_keeps_valid_level :
    ∃ s f v, Schema.ofConfig levelConfig = .ok s ∧ s.field? "level" = some f ∧
      levelItem.fields.find? "level" = some (.string "HIGH") ∧
      f.check DateFormat.january (.string "HIGH") = .ok () ∧
      (fixValues s levelItem).1.fields.find? "level" = some v ∧ v.string? = some "high" ∧
      f.check DateFormat.january v = .ok () := by
  have hschema : (Schema.ofConfig levelConfig).toOption.map (fun s =>
      ((s.field? "level").map fun f => (f.check DateFormat.january (.string "HIGH")).toOption,
        ((fixValues s levelItem).1.fields.find? "level").bind Value.string?)) =
      some (some (some ()), some "high") := by
    decide +kernel
  obtain ⟨s, hs, hcompiled⟩ := exists_ok hschema
  obtain ⟨hfield, hlevel⟩ := Prod.mk.inj hcompiled
  obtain ⟨f, hf, hcheck⟩ := Option.map_eq_some_iff.1 hfield
  have hold : levelItem.fields.find? "level" = some (.string "HIGH") :=
    (Entries.find?_insert ..).trans (if_pos rfl)
  have hvalid : f.check DateFormat.january (.string "HIGH") = .ok () := by
    cases hresult : f.check DateFormat.january (.string "HIGH") with
    | error e =>
        rw [hresult] at hcheck
        cases hcheck
    | ok u => rfl
  obtain ⟨v, hv, hkeeps, -⟩ :=
    (fixing_keeps_valid hs DateFormat.january levelItem).1 "level" f _ hf hold
  rw [hv] at hlevel
  exact ⟨s, f, v, hs, hf, hold, hvalid, hv, hlevel, hkeeps hvalid⟩

end Repair

end WorkItems
