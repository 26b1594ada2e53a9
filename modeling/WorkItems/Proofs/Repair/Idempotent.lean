import WorkItems.Proofs.Dict
import WorkItems.Proofs.Repair.Defaults
import WorkItems.Proofs.Schema.Default
/-!
# A repaired document needs no repair

The first pass fills fields, the second restates values and may restate what the first has just put
there, the third restates the date of creation. Behind them nothing is left to do for any of them,
on any day: a field that can be filled is filled and stays so when its value is restated, what was
restated is canonical, and the date of creation is in the standard format.
-/

namespace WorkItems.Repair

variable {s : Schema} {today : Date} {item filled : Item}

/-! ## Filling -/

theorem isFilled_insert {name key : String} {v : Value} (h : isFilled item name = true)
    (hv : v.isVacant = false) :
    isFilled { item with fields := item.fields.insert key v } name = true := by
  change (Entries.find? name (Entries.insert key v item.fields.entries)).any (!·.isVacant) = true
  rw [Entries.find?_insert]
  split
  · simp [hv]
  · exact h

theorem isFilled_insert_self {key : String} {v : Value} (hv : v.isVacant = false) :
    isFilled { item with fields := item.fields.insert key v } key = true := by
  change (Entries.find? key (Entries.insert key v item.fields.entries)).any (!·.isVacant) = true
  rw [Entries.find?_insert, if_pos rfl]
  simp [hv]

theorem isVacant_of_schemaResolveDefault {f : Field} {v : Value} (hf : f.ShowsDates)
    (h : Schema.resolveDefault f today = .ok (some v)) : v.isVacant = false := by
  rw [Schema.resolveDefault] at h
  cases hresolve : f.resolveDefault today with
  | error e =>
      rw [hresolve] at h
      cases h
  | ok w =>
      rw [hresolve] at h
      obtain rfl := Except.ok.inj h
      exact Field.isVacant_of_resolveDefault hf hresolve

/-- Filling keeps what is filled and settles every field that it comes to. -/
theorem fillFields_spec {fs : List Field} (hfs : ∀ f ∈ fs, f.ShowsDates) {names : List String}
    (h : fillFields today item fs = (filled, .ok names)) :
    (∀ name, isFilled item name = true → isFilled filled name = true) ∧
      ∀ f ∈ fs, IsSettled today filled f := by
  induction fs generalizing item names with
  | nil =>
      cases h
      exact ⟨fun _ hname => hname, fun f hf => nomatch hf⟩
  | cons f fs ih =>
      have hrest : ∀ g ∈ fs, g.ShowsDates := fun g hg => hfs g (List.mem_cons_of_mem _ hg)
      rcases fillFields_cons_eq_ok h with ⟨hskip, h⟩ | ⟨v, more, hgap, -, h⟩
      · obtain ⟨hkeep, hsettled⟩ := ih hrest h
        refine ⟨hkeep, fun g hg => ?_⟩
        rcases List.mem_cons.1 hg with rfl | hg
        · exact hskip.imp_right (.imp_left (hkeep _))
        · exact hsettled g hg
      · have hvacant :=
          isVacant_of_schemaResolveDefault (hfs f (List.mem_cons_self ..)) hgap.default
        obtain ⟨hkeep, hsettled⟩ := ih hrest h
        refine ⟨fun name hname => hkeep name (isFilled_insert hname hvacant), fun g hg => ?_⟩
        rcases List.mem_cons.1 hg with rfl | hg
        · exact .inr (.inl (hkeep _ (isFilled_insert_self hvacant)))
        · exact hsettled g hg

/-- With all fields settled there is nothing to fill. -/
theorem fillFields_of_isSettled {fs : List Field} (h : ∀ f ∈ fs, IsSettled today item f) :
    fillFields today item fs = (item, .ok []) := by
  induction fs with
  | nil => rfl
  | cons f fs ih =>
      have hrest := ih fun g hg => h g (List.mem_cons_of_mem _ hg)
      rw [fillFields]
      split
      · exact hrest
      · rename_i hskip
        rw [Bool.or_eq_true_iff, not_or] at hskip
        obtain hcore | hfilled | hnone := h f (List.mem_cons_self ..)
        · exact absurd hcore hskip.1
        · exact absurd hfilled hskip.2
        · rw [hnone]
          exact hrest

/-- A field that is settled on one day is settled on every day. -/
theorem IsSettled.other {f : Field} (h : IsSettled today item f) (other : Date) :
    IsSettled other item f := by
  obtain hcore | hfilled | hnone := h
  · exact .inl hcore
  · exact .inr (.inl hfilled)
  · refine .inr (.inr ?_)
    rw [Schema.resolveDefault] at hnone ⊢
    cases hresolve : f.resolveDefault today with
    | error e =>
        rw [hresolve] at hnone
        cases hnone
    | ok v =>
        rw [hresolve] at hnone
        obtain rfl := Except.ok.inj hnone
        rw [Field.resolveDefault_none hresolve other]
        rfl

/-! ## Restating -/

theorem isFilled_fixValues (hs : ∀ f ∈ s.fields.values, f.ShowsDates) {name : String}
    (h : isFilled item name = true) : isFilled (fixValues s item).1 name = true := by
  rw [isFilled] at h
  rw [isFilled, find?_fixValues_eq_map]
  cases hfind : item.fields.find? name with
  | none =>
      rw [hfind] at h
      cases h
  | some v =>
      rw [hfind] at h
      have hv : v.isVacant = false := by simpa using h
      simp [isVacant_restated hs hv]

/-- Without anything to restate an item stays as it is. -/
theorem fixValues_eq_self
    (h : ∀ name v, (name, v) ∈ item.fields.entries → restatement? s name v = none) :
    fixValues s item = (item, []) := by
  have hfields : item.fields.map (restated s) = item.fields := by
    refine Dict.ext_entries ((List.map_congr_left fun e he => ?_).trans (List.map_id _))
    obtain ⟨name, v⟩ := e
    simp only [restated, h name v he, id_eq]
  refine Prod.ext ?_ ?_
  · rw [fixValues, hfields]
  · refine List.filterMap_eq_nil_iff.2 fun e he => ?_
    obtain ⟨name, v⟩ := e
    simp only [h name v he, Option.map_none]

/-- Restated values leave nothing to restate. -/
theorem restatement?_fixValues (hs : ∀ f ∈ s.fields.values, f.ReadsDatesBack) (item : Item) :
    ∀ name v, (name, v) ∈ (fixValues s item).1.fields.entries → restatement? s name v = none := by
  intro name v hmem
  obtain ⟨e, -, heq⟩ := List.mem_map.1 hmem
  cases heq
  exact restatement?_restated hs e.1 e.2

/-! ## The date of creation -/

theorem newCreated?_isoText (d : Date) : newCreated? d.isoText = none := by
  rw [newCreated?, DateFormat.readIso?_isoText]
  simp

theorem fixCreated_fixCreated (item : Item) :
    fixCreated (fixCreated item).1 = ((fixCreated item).1, none) := by
  have hnone : newCreated? (fixCreated item).1.created = none := by
    rw [fixCreated]
    split
    · rename_i new hnew
      rw [newCreated?] at hnew
      split at hnew
      · cases hnew
      · obtain ⟨d, -, rfl⟩ := Option.map_eq_some_iff.1 hnew
        exact newCreated?_isoText d
    · assumption
  rw [fixCreated.eq_def (fixCreated item).1, hnone]

theorem fields_fixCreated (item : Item) : (fixCreated item).1.fields = item.fields := by
  rw [fixCreated]
  split <;> rfl

/-- Restating the values and the date of creation leaves neither of them to be restated. -/
theorem fixItem_fixItem (hs : ∀ f ∈ s.fields.values, f.ReadsDatesBack) (item : Item) :
    fixItem s (fixItem s item).1 = ((fixItem s item).1, []) := by
  have hvalues : fixValues s (fixItem s item).1 = ((fixItem s item).1, []) := by
    refine fixValues_eq_self fun name v hmem => restatement?_fixValues hs item name v ?_
    change (name, v) ∈ (fixCreated (fixValues s item).1).1.fields.entries at hmem
    rwa [fields_fixCreated] at hmem
  have hcreated : fixCreated (fixItem s item).1 = ((fixItem s item).1, none) :=
    fixCreated_fixCreated (fixValues s item).1
  rw [fixItem.eq_def s (fixItem s item).1, hvalues]
  simp only [hcreated]
  rfl

theorem isFilled_fixItem (hs : ∀ f ∈ s.fields.values, f.ShowsDates) {name : String}
    (h : isFilled item name = true) : isFilled (fixItem s item).1 name = true := by
  change isFilled (fixCreated (fixValues s item).1).1 name = true
  rw [isFilled, fields_fixCreated]
  exact isFilled_fixValues hs h

/-! ## Documents -/

theorem repairDocument_eq_ok {doc repaired : Document} {changes : List Change}
    (h : repairDocument s today doc = (repaired, .ok changes)) :
    ∃ filled names, fillFields today doc.item s.fields.values = (filled, .ok names) ∧
      repaired = { doc with item := (fixItem s filled).1 } ∧
      changes = additions filled names ++ (fixItem s filled).2 := by
  rw [repairDocument, repairItem, applyDefaults] at h
  cases hfill : fillFields today doc.item s.fields.values with
  | mk filled result =>
      rw [hfill] at h
      cases result with
      | error e => cases congrArg Prod.snd h
      | ok names =>
          cases h
          exact ⟨filled, names, rfl, rfl, rfl⟩

/-- A document whose item is settled and in canonical form needs no repair. -/
theorem repairDocument_eq_self {doc : Document}
    (hfill : ∀ f ∈ s.fields.values, IsSettled today doc.item f)
    (hfix : fixItem s doc.item = (doc.item, [])) :
    repairDocument s today doc = (doc, .ok []) := by
  rw [repairDocument, repairItem, applyDefaults, fillFields_of_isSettled hfill]
  simp only [hfix]
  rfl

/--
A repair leaves nothing to repair, on the same day or any other, if the date fields of the schema
read back what they write; the standard format of dates does.
-/
theorem repairDocument_idempotent :
    DateFormat.ReadsBack DateFormat.standard ∧
      ∀ s : Schema, (∀ f ∈ s.fields.values, f.ReadsDatesBack) →
        ∀ (first second : Date) (doc repaired : Document) (changes : List Change),
          repairDocument s first doc = (repaired, .ok changes) →
            repairDocument s second repaired = (repaired, .ok []) := by
  refine ⟨DateFormat.readsBack_standard, fun s hs first second doc repaired changes h => ?_⟩
  obtain ⟨filled, names, hfill, rfl, -⟩ := repairDocument_eq_ok h
  have hshows : ∀ f ∈ s.fields.values, f.ShowsDates := fun f hf => (hs f hf).showsDates
  refine repairDocument_eq_self (fun f hf => ?_) (fixItem_fixItem hs filled)
  obtain hcore | hfilled | hnone := ((fillFields_spec hshows hfill).2 f hf).other second
  · exact .inl hcore
  · exact .inr (.inl (isFilled_fixItem hshows hfilled))
  · exact .inr (.inr hnone)

/-- A schema with a date that is filled in with the current one. -/
def dueSchema : Schema :=
  { (default : Schema) with
    fields := ⟨[("due", ⟨"due", { fieldType := .date, default := some (.string "today") }, none,
      DateFormat.standard, none, none⟩)], List.pairwise_singleton ..⟩ }

/-- A document without that date. -/
def undated : Document := ⟨⟨"1", "T", "todo", "task", "2024-01-02", .empty⟩, "body"⟩

/-- The first repair fills in the date of its day, and the second one on another day lets it be. -/
theorem repairDocument_idempotent_undated :
    let filled : Item :=
      { undated.item with fields := Dict.empty.insert "due" (.string "2006-01-02") }
    let repaired : Document := { undated with item := filled }
    repairDocument dueSchema DateFormat.january undated =
        (repaired, .ok [.added "due" (.string "2006-01-02")]) ∧
      repairDocument dueSchema DateFormat.november repaired = (repaired, .ok []) := by
  intro filled repaired
  have hfirst : repairDocument dueSchema DateFormat.january undated =
      (repaired, .ok [.added "due" (.string "2006-01-02")]) := by
    rfl
  have hdates : ∀ f ∈ dueSchema.fields.values, f.ReadsDatesBack := by
    intro f hf _ d
    obtain rfl := List.mem_singleton.1 hf
    exact Option.isSome_of_eq_some (DateFormat.readsBack_standard d)
  exact ⟨hfirst, repairDocument_idempotent.2 dueSchema hdates DateFormat.january DateFormat.november
    undated repaired _ hfirst⟩

end WorkItems.Repair
