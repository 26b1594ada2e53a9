import WorkItems.Plan
import WorkItems.Proofs.Repair.Gaps
/-!
# A repair reports what it changes

The changes that a repair reports come from three passes, each with a reason of its own to report
one: a gap was filled, a value was restated, the date of creation was restated. In the end they name
exactly what is different. A gap that was filled holds something afterwards, whatever its value is
restated to; a value is restated only as another text; and a date of creation that is not in the
standard format is not what the standard format writes. So without a change nothing is different,
and a file is left alone.
-/

namespace WorkItems.Repair

variable {s : Schema} {today : Date} {item filled : Item} {names : List String} {name : String}

/-! ## What is restated -/

theorem restated_eq_self_iff {v : Value} :
    restated s name v = v ↔ restatement? s name v = none := by
  constructor
  · intro h
    cases hnew : restatement? s name v with
    | none => rfl
    | some x =>
        obtain ⟨old, new⟩ := x
        obtain ⟨f, -, rfl, -, -, hne⟩ := restatement?_eq_some hnew
        rw [restated, hnew] at h
        exact absurd (Value.string.inj h) hne
  · intro h
    rw [restated, h]

/-- The fields that are reported as fixed are those with a value that becomes another one. -/
theorem mem_fixValues_iff : name ∈ (fixValues s item).2.map Change.field ↔
    ∃ v, item.fields.find? name = some v ∧ restated s name v ≠ v := by
  constructor
  · intro hname
    obtain ⟨change, hchange, rfl⟩ := List.mem_map.1 hname
    obtain ⟨⟨key, v⟩, hmem, hfixed⟩ := List.mem_filterMap.1 hchange
    obtain ⟨⟨old, new⟩, hnew, rfl⟩ := Option.map_eq_some_iff.1 hfixed
    refine ⟨v, (Entries.find?_eq_some_iff item.fields.sorted).2 hmem, ?_⟩
    intro hsame
    have hnone : restatement? s key v = none := restated_eq_self_iff.1 hsame
    rw [hnone] at hnew
    cases hnew
  · rintro ⟨v, hfind, hne⟩
    obtain ⟨⟨old, new⟩, hnew⟩ := Option.ne_none_iff_exists'.1 (mt restated_eq_self_iff.2 hne)
    refine List.mem_map.2 ⟨.fixed name old new, List.mem_filterMap.2 ⟨(name, v), ?_, ?_⟩, rfl⟩
    · exact Entries.mem_of_find? hfind
    · simp only [hnew, Option.map_some]

/-- A date of creation that is restated becomes another text. -/
theorem newCreated?_ne {created new : String} (h : newCreated? created = some new) :
    new ≠ created := by
  rw [newCreated?] at h
  split at h
  · cases h
  · rename_i hread
    obtain ⟨d, -, rfl⟩ := Option.map_eq_some_iff.1 h
    rintro rfl
    exact hread (by simp [DateFormat.readIso?_isoText])

theorem created_fixCreated_ne_iff :
    (fixCreated item).1.created ≠ item.created ↔ ∃ change, (fixCreated item).2 = some change := by
  rw [fixCreated]
  cases hnew : newCreated? item.created with
  | none => simp
  | some new => simp [newCreated?_ne hnew]

theorem field_of_fixCreated {change : Change} (h : (fixCreated item).2 = some change) :
    change.field = "created" := by
  rw [fixCreated] at h
  split at h
  · cases h
    rfl
  · cases h

theorem core_fixCreated {field : CoreField} (hfield : field ≠ .created) :
    (fixCreated item).1.core field = item.core field := by
  rw [fixCreated]
  split
  · cases field <;> first | rfl | exact absurd rfl hfield
  · rfl

theorem find?_fixItem : (fixItem s item).1.fields.find? name =
    (item.fields.find? name).map (restated s name) := by
  change (fixCreated (fixValues s item).1).1.fields.find? name = _
  rw [fields_fixCreated]
  exact find?_fixValues_eq_map s item name

/-! ## What is added -/

/-- Every field that was added is reported, if it holds something. -/
theorem map_field_additions (h : ∀ name ∈ names, ∃ v, item.fields.find? name = some v) :
    (additions item names).map Change.field = names := by
  induction names with
  | nil => rfl
  | cons name names ih =>
      obtain ⟨v, hv⟩ := h name (List.mem_cons_self ..)
      have hrest := ih fun other hother => h other (List.mem_cons_of_mem _ hother)
      rw [additions, List.filterMap_cons, hv]
      exact congrArg (name :: ·) hrest

/-! ## What is different -/

/-- A field is different behind the repair if it was added, or its value was restated. -/
theorem find?_ne_iff (hshows : ∀ f ∈ s.fields.values, f.ShowsDates) (hnames : s.NamesFields)
    (h : fillFields today item s.fields.values = (filled, .ok names)) :
    (fixItem s filled).1.fields.find? name ≠ item.fields.find? name ↔
      name ∈ names ∨ ∃ v, filled.fields.find? name = some v ∧ restated s name v ≠ v := by
  by_cases hname : name ∈ names
  · refine ⟨fun _ => .inl hname, fun _ hsame => ?_⟩
    obtain ⟨f, hf, rfl, v, hgap⟩ := exists_isGap_of_mem (nodup_map_name hnames) h hname
    have hfind := (find?_fillFields_of_isGap (nodup_map_name hnames) h hf hgap).2
    have hvacant := isVacant_of_schemaResolveDefault (hshows f hf) hgap.default
    have hfilled : isFilled filled f.name = true := by
      rw [isFilled, hfind]
      simp [hvacant]
    have hstays := isFilled_fixItem hshows hfilled
    have hempty := hgap.empty
    rw [isFilled, ← hsame] at hempty
    rw [isFilled, hempty] at hstays
    cases hstays
  · rw [find?_fixItem, find?_fillFields_of_notMem h hname]
    constructor
    · intro hne
      cases hfind : item.fields.find? name with
      | none =>
          rw [hfind] at hne
          exact absurd rfl hne
      | some v =>
          rw [hfind] at hne
          exact .inr ⟨v, rfl, fun hsame => hne (congrArg some hsame)⟩
    · rintro (hmem | ⟨v, hfind, hne⟩) hsame
      · exact hname hmem
      · rw [hfind] at hsame
        exact hne (Option.some.inj hsame)

theorem fixCreated_eq_self (h : (fixCreated item).2 = none) : (fixCreated item).1 = item := by
  rw [fixCreated] at h ⊢
  cases hnew : newCreated? item.created with
  | none => rfl
  | some new =>
      rw [hnew] at h
      cases h

/-- Without a report nothing was restated. -/
theorem fixItem_eq_self (h : (fixItem s item).2 = []) : (fixItem s item).1 = item := by
  have hparts : (fixValues s item).2 ++ (fixCreated (fixValues s item).1).2.toList = [] := h
  obtain ⟨hvalues, hcreated⟩ := List.append_eq_nil_iff.1 hparts
  have hfixed : fixValues s item = (item, []) := by
    refine fixValues_eq_self fun name v hmem => restated_eq_self_iff.1 ?_
    refine Classical.byContradiction fun hne => ?_
    have hfind := (Entries.find?_eq_some_iff item.fields.sorted).2 hmem
    have hname := mem_fixValues_iff.2 ⟨v, hfind, hne⟩
    rw [hvalues] at hname
    cases hname
  have hdate : (fixCreated (fixValues s item).1).2 = none := Option.toList_eq_nil_iff.1 hcreated
  calc (fixItem s item).1 = (fixCreated (fixValues s item).1).1 := rfl
    _ = (fixValues s item).1 := fixCreated_eq_self hdate
    _ = item := congrArg Prod.fst hfixed

section Documents

variable {doc repaired : Document} {changes : List Change}

theorem core_of_repairDocument (h : repairDocument s today doc = (repaired, .ok changes))
    {field : CoreField} (hfield : field ≠ .created) :
    repaired.item.core field = doc.item.core field := by
  obtain ⟨filled, names, hfill, rfl, -⟩ := repairDocument_eq_ok h
  have hfilled : filled = (fillFields today doc.item s.fields.values).1 :=
    (congrArg Prod.fst hfill).symm
  calc (fixItem s filled).1.core field
      = (fixValues s filled).1.core field := core_fixCreated hfield
    _ = filled.core field := by rw [core_fixValues]
    _ = doc.item.core field := by rw [hfilled, core_fillFields]

/-- What the changes name is different, and nothing else is. -/
theorem mem_changes_iff (hshows : ∀ f ∈ s.fields.values, f.ShowsDates) (hnames : s.NamesFields)
    (h : repairDocument s today doc = (repaired, .ok changes)) :
    name ∈ changes.map Change.field ↔
      repaired.item.fields.find? name ≠ doc.item.fields.find? name ∨
        (name = "created" ∧ repaired.item.created ≠ doc.item.created) := by
  obtain ⟨filled, names, hfill, rfl, rfl⟩ := repairDocument_eq_ok h
  have hadded : (additions filled names).map Change.field = names := by
    refine map_field_additions fun added hadded => ?_
    obtain ⟨f, hf, rfl, v, hgap⟩ := exists_isGap_of_mem (nodup_map_name hnames) hfill hadded
    exact ⟨v, (find?_fillFields_of_isGap (nodup_map_name hnames) hfill hf hgap).2⟩
  have hcreated : (fixValues s filled).1.created = doc.item.created := by
    have hfilled : filled = (fillFields today doc.item s.fields.values).1 :=
      (congrArg Prod.fst hfill).symm
    calc (fixValues s filled).1.core .created
        = filled.core .created := by rw [core_fixValues]
      _ = doc.item.core .created := by rw [hfilled, core_fillFields]
  have hdate : name ∈ ((fixCreated (fixValues s filled).1).2.toList).map Change.field ↔
      name = "created" ∧ (fixItem s filled).1.created ≠ doc.item.created := by
    change _ ↔ _ ∧ (fixCreated (fixValues s filled).1).1.created ≠ _
    rw [← hcreated, created_fixCreated_ne_iff]
    constructor
    · intro hname
      obtain ⟨change, hchange, rfl⟩ := List.mem_map.1 hname
      have hsome := Option.mem_toList.1 hchange
      exact ⟨field_of_fixCreated hsome, change, hsome⟩
    · rintro ⟨rfl, change, hsome⟩
      exact List.mem_map.2 ⟨change, Option.mem_toList.2 hsome, field_of_fixCreated hsome⟩
  have hfixed : (fixItem s filled).2 =
      (fixValues s filled).2 ++ (fixCreated (fixValues s filled).1).2.toList := rfl
  rw [find?_ne_iff hshows hnames hfill, hfixed, List.map_append, List.map_append, hadded,
    List.mem_append, List.mem_append, hdate, mem_fixValues_iff, or_assoc]

/-- Nothing is reported if and only if the document is the same. -/
theorem changes_eq_nil_iff (hshows : ∀ f ∈ s.fields.values, f.ShowsDates) (hnames : s.NamesFields)
    (h : repairDocument s today doc = (repaired, .ok changes)) : changes = [] ↔ repaired = doc := by
  constructor
  · rintro rfl
    obtain ⟨filled, names, hfill, rfl, hchanges⟩ := repairDocument_eq_ok h
    obtain ⟨hadded, hfixed⟩ := List.append_eq_nil_iff.1 hchanges.symm
    have hnone : names = [] := by
      refine List.eq_nil_iff_forall_not_mem.2 fun added hmem => ?_
      obtain ⟨f, hf, rfl, v, hgap⟩ := exists_isGap_of_mem (nodup_map_name hnames) hfill hmem
      have hfind := (find?_fillFields_of_isGap (nodup_map_name hnames) hfill hf hgap).2
      have hchange : Change.added f.name v ∈ additions filled names :=
        List.mem_filterMap.2 ⟨f.name, hmem, by rw [hfind]; rfl⟩
      rw [hadded] at hchange
      cases hchange
    subst hnone
    rw [fixItem_eq_self hfixed, fillFields_eq_self hfill]
  · rintro rfl
    have hnone : ∀ name, name ∉ changes.map Change.field := by
      intro name hname
      rcases (mem_changes_iff hshows hnames h).1 hname with hne | ⟨-, hne⟩
      · exact hne rfl
      · exact hne rfl
    exact List.map_eq_nil_iff.1 (List.eq_nil_iff_forall_not_mem.2 hnone)

end Documents

/--
The changes that a repair reports name exactly the fields that are different behind it, and the date
of creation if that is. Everything else is as it was, and the document is the same if and only if
nothing is reported. So a file gets a new document if that is another one, and is left alone if it
is not.
-/
theorem repair_reports_exactly {c : Config} {doc repaired : Document} {changes : List Change}
    (hs : Schema.ofConfig c = .ok s) (h : repairDocument s today doc = (repaired, .ok changes)) :
    (changes = [] ↔ repaired = doc) ∧
    (∀ name, name ∈ changes.map Change.field ↔
      repaired.item.fields.find? name ≠ doc.item.fields.find? name ∨
        (name = "created" ∧ repaired.item.created ≠ doc.item.created)) ∧
    repaired.body = doc.body ∧
    (∀ field : CoreField, field ≠ .created → repaired.item.core field = doc.item.core field) ∧
    ∀ file : ItemFile, file.document = .ok doc →
      (repaired = doc → stepFor s today file = .ok none) ∧
      (repaired ≠ doc → stepFor s today file =
        .ok (some ⟨file.path, changes.map .change, some repaired⟩)) := by
  have hnames := Schema.namesFields_of_ofConfig hs
  have hshows := Schema.showsDates_of_ofConfig hs
  have hnil := changes_eq_nil_iff hshows hnames h
  refine ⟨hnil, ?_, ?_, ?_, ?_⟩
  · intro name
    exact mem_changes_iff hshows hnames h
  · obtain ⟨filled, names, -, rfl, -⟩ := repairDocument_eq_ok h
    rfl
  · intro field hfield
    exact core_of_repairDocument h hfield
  · intro file hfile
    constructor
    · intro hsame
      rw [hnil.2 hsame] at h
      rw [stepFor, hfile]
      simp only [h]
    · intro hne
      obtain ⟨change, more, rfl⟩ := List.exists_cons_of_ne_nil (mt hnil.1 hne)
      rw [stepFor, hfile]
      simp only [h]

/-- A document without a level, and with a date of creation in another format. -/
def slashedDocument : Document := ⟨⟨"1", "T", "todo", "task", "2024/01/02", .empty⟩, "body"⟩

/--
Its repair reports the level that is added and the date that is restated, and gives it a new
document.
-/
theorem repair_reports_exactly_slashed :
    ∃ s repaired changes, Schema.ofConfig levelConfig = .ok s ∧
      repairDocument s DateFormat.january slashedDocument = (repaired, .ok changes) ∧
      changes.map Change.field = ["level", "created"] ∧
      repaired.item.fields.find? "level" ≠ slashedDocument.item.fields.find? "level" ∧
      repaired.item.created = "2024-01-02" ∧
      stepFor s DateFormat.january ⟨⟨"todo/1.md"⟩, .ok slashedDocument⟩ =
        .ok (some ⟨⟨"todo/1.md"⟩, changes.map .change, some repaired⟩) := by
  have hschema : (Schema.ofConfig levelConfig).toOption.map (fun s =>
      ((repairDocument s DateFormat.january slashedDocument).1.item.created,
        (repairDocument s DateFormat.january slashedDocument).2.toOption.map fun changes =>
          changes.map Change.field)) = some ("2024-01-02", some ["level", "created"]) := by
    decide +kernel
  obtain ⟨s, hs, hrepaired⟩ := exists_ok hschema
  obtain ⟨hcreated, hchanges⟩ := Prod.mk.inj hrepaired
  obtain ⟨changes, hresult, hfields⟩ := exists_ok hchanges
  have h : repairDocument s DateFormat.january slashedDocument = (_, .ok changes) :=
    Prod.ext rfl hresult
  obtain ⟨hnil, hmem, -, -, hstep⟩ := repair_reports_exactly hs h
  have hne : changes ≠ [] := by
    rintro rfl
    cases hfields
  refine ⟨s, _, changes, hs, h, hfields, ?_, hcreated,
    (hstep ⟨⟨"todo/1.md"⟩, _⟩ rfl).2 (mt hnil.2 hne)⟩
  rcases (hmem "level").1 (hfields ▸ List.mem_cons_self ..) with hlevel | ⟨heq, -⟩
  · exact hlevel
  · exact absurd heq (by decide)

end WorkItems.Repair
