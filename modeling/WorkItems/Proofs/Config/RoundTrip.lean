import WorkItems.Config
import WorkItems.Proofs.Config.Fields
/-!
# Configurations are read back as they were written

A configuration that was read, or that a project starts with, is written as a text that is read as
the same configuration. Two parts of defaults are the exception: a default that is null is read as
none, and data may have a tag that is written as something else.
-/

namespace WorkItems
namespace Config

open Yaml
open FieldConfig (entry_eq listEntry naturalData natural_naturalData texts_written textsOr_written)

/-! ## Records as they are written -/

def writtenProject (p : Project) : List (String × Option Data) := [
  ("name", (some p.name).map .string),
  ("description", (some p.description).map fun d => d.elim .null .string)]

def writtenValidation (v : Validation) : List (String × Option Data) := [
  ("required_fields", (if v.requiredFields.isEmpty then none else some v.requiredFields).map
    fun ts => .sequence (ts.map .string)),
  ("id_format", (some v.idFormat).map .string),
  ("status_values", (some v.statusValues).map textsData),
  ("strict", (some v.strict).map .bool)]

def writtenFields (c : Config) : List (String × Option Data) := [
  ("version", (some c.version).map naturalData),
  ("project", (some c.project).map projectData),
  ("fields", (if c.fields.isEmpty then none else some c.fields).map (dictData FieldConfig.toData)),
  ("validation", (some c.validation).map validationData),
  ("status_folders", (some c.statusFolders).map (dictData .string)),
  ("active_status", (some c.activeStatus).map .string)]

theorem projectData_eq (p : Project) :
    projectData p = .mapping (recordEntries (writtenProject p)) := by
  simp only [projectData, entry_eq, ← recordEntries_append, writtenProject, List.cons_append,
    List.nil_append]

theorem validationData_eq (v : Validation) :
    validationData v = .mapping (recordEntries (writtenValidation v)) := by
  simp only [validationData, listEntry, entry_eq, ← recordEntries_append, writtenValidation,
    List.cons_append, List.nil_append]

theorem toData_eq (c : Config) : c.toData = .mapping (recordEntries c.writtenFields) := by
  simp only [toData, entry_eq, ← recordEntries_append, writtenFields, List.cons_append,
    List.nil_append]

/-- The lines of a written configuration. -/
theorem toList_render (c : Config) :
    c.render.toList = Data.entryLines 0 true (recordEntries c.writtenFields) := by
  obtain ⟨e, es, hentries⟩ : ∃ e es, recordEntries c.writtenFields = e :: es := ⟨_, _, rfl⟩
  rw [render, toData_eq, hentries, Data.render, String.toList_ofList]

/-! ## What they are read as -/

theorem readProject_written (p : Project) : readProject (projectData p).written = pure p := by
  have hnodup : ["name", "description"].Nodup := by decide
  obtain ⟨r, hrecord, hfind⟩ := record_written (projectData_eq p) hnodup rfl
  simp only [writtenProject, List.forall_mem_cons] at hfind
  obtain ⟨hname, hdescription, -⟩ := hfind
  have hread : Node.optional Node.text (p.description.elim Data.null .string).written =
      pure p.description := by
    cases p.description with
    | none => rfl
    | some d => exact optional_of_isGiven (isGiven_string d) (text_written d)
  rw [readProject, hrecord, pure_bind, required_written hname (text_written _), pure_bind,
    Record.optional, always_written hdescription hread, pure_bind]

theorem readValidation_written (v : Validation) :
    readValidation (validationData v).written = pure v := by
  have hnodup : ["required_fields", "id_format", "status_values", "strict"].Nodup := by decide
  obtain ⟨r, hrecord, hfind⟩ := record_written (validationData_eq v) hnodup rfl
  simp only [writtenValidation, List.forall_mem_cons] at hfind
  obtain ⟨hrequired, hid, hstatuses, hstrict, -⟩ := hfind
  rw [readValidation, hrecord, pure_bind, textsOr_written hrequired, pure_bind,
    always_written hid (text_written _), pure_bind, always_written hstatuses (texts_written _),
    pure_bind, always_written hstrict (flag_written _), pure_bind]

/-- A configuration within the bounds of those that are read. -/
structure IsStored (c : Config) : Prop where
  version : c.version < versionBound
  fields : ∀ e ∈ c.fields.entries, e.2.IsStored fieldDepth

/-- A configuration without a NaN. -/
def HoldsNoNaN (c : Config) : Prop := ∀ e ∈ c.fields.entries, e.2.HoldsNoNaN

/-- A configuration whose defaults have writable tags only. -/
def HasWritableTags (c : Config) : Prop := ∀ e ∈ c.fields.entries, e.2.HasWritableTags

/-- The configuration without the defaults that are null. -/
def withoutNullDefaults (c : Config) : Config :=
  { c with fields := c.fields.map fun _ f => f.withoutNullDefault }

section Written

variable {c : Config}

theorem read_written (hstored : c.IsStored) (hnan : c.HoldsNoNaN) (htags : c.HasWritableTags) :
    read c.toData.written = pure c.withoutNullDefaults := by
  have hnodup : ["version", "project", "fields", "validation", "status_folders",
      "active_status"].Nodup := by decide
  obtain ⟨r, hrecord, hfind⟩ := record_written (toData_eq c) hnodup rfl
  simp only [writtenFields, List.forall_mem_cons] at hfind
  obtain ⟨hversion, hproject, hfields, hvalidation, hfolders, hactive, -⟩ := hfind
  have hbound : versionBound < FieldConfig.maxLengthBound := by decide
  have hdict : r.withDefault "fields" .empty (Node.dictionary (FieldConfig.read fieldDepth)) =
      pure c.withoutNullDefaults.fields := by
    refine withDefault_written hfields (fun v hv => ?_) fun hnone => ?_
    · split at hv <;> cases hv
      exact dictionary_written fun e he =>
        FieldConfig.read_written (hstored.fields e he) (hnan e he) (htags e he)
    · split at hnone
      · rename_i hempty
        refine Dict.ext_entries ?_
        have hnil : c.fields.entries = [] := List.isEmpty_iff.1 hempty
        simp [withoutNullDefaults, Dict.map, hnil, Dict.empty]
      · cases hnone
  have hdictionary : (dictData .string c.statusFolders).written.dictionary Node.text =
      pure c.statusFolders := by
    have hread := @dictionary_written _ Node.text Data.string id c.statusFolders
      fun e _ => text_written e.2
    exact hread.trans (congrArg pure (Dict.map_eq_self_iff.2 fun _ _ => rfl))
  rw [read, hrecord, pure_bind,
    always_written hversion
      (natural_naturalData hstored.version (Nat.lt_trans hstored.version hbound)), pure_bind,
    required_written hproject (readProject_written _), pure_bind,
    hdict, pure_bind,
    always_written hvalidation (readValidation_written _), pure_bind,
    always_written hfolders hdictionary, pure_bind,
    always_written hactive (text_written _), pure_bind]
  rfl

/-! ## What is read, and what can be printed -/

theorem gives_read (n : Node) : Gives IsStored (read n) := by
  have hfields : ∀ e ∈ (Dict.empty : Dict FieldConfig).entries, e.2.IsStored fieldDepth :=
    List.forall_mem_nil _
  rw [read]
  refine (gives_true _).bind fun r _ =>
    (r.gives_withDefault "version" (by decide) (gives_natural versionBound)).bind
      fun version hversion =>
    (gives_true _).bind fun project _ =>
    (r.gives_withDefault "fields" hfields
      (gives_dictionary (FieldConfig.gives_read fieldDepth))).bind fun fields hfields =>
    (gives_true _).bind fun validation _ => (gives_true _).bind fun statusFolders _ =>
    (gives_true _).bind fun activeStatus _ => Gives.pure ?_
  exact ⟨hversion, hfields⟩

theorem fulfils_dictData {α : Type} {toData : α → Data} {d : Dict α}
    (h : ∀ e ∈ d.entries, (toData e.2).Fulfils writable) : (dictData toData d).Fulfils writable :=
  .mapping (List.forall_mem_map.2 fun _ _ => .string trivial) (List.forall_mem_map.2 h)

/-- What a configuration is written as can be printed. -/
theorem fulfils_toData (h : ∀ e ∈ c.fields.entries, ∀ d ∈ e.2.default, d.Fulfils writable) :
    c.toData.Fulfils writable := by
  have hstring : ∀ s, (Data.string s).Fulfils writable := fun s => .string trivial
  have hproject : (projectData c.project).Fulfils writable := by
    rw [projectData_eq]
    refine fulfils_recordEntries (fun _ => trivial) ?_
    simp only [writtenProject, List.forall_mem_cons, Option.forall_mem_map]
    refine ⟨fun _ _ => hstring _, fun d _ => ?_, List.forall_mem_nil _⟩
    cases d with
    | none => exact .null
    | some d => exact hstring d
  have htexts : ∀ ts, (textsData ts).Fulfils writable := fulfils_texts fun _ => trivial
  have hvalidation : (validationData c.validation).Fulfils writable := by
    rw [validationData_eq]
    refine fulfils_recordEntries (fun _ => trivial) ?_
    simp only [writtenValidation, List.forall_mem_cons, Option.forall_mem_map]
    exact ⟨fun _ _ => htexts _, fun _ _ => hstring _, fun _ _ => htexts _, fun _ _ => .bool,
      List.forall_mem_nil _⟩
  have hfields : (dictData FieldConfig.toData c.fields).Fulfils writable :=
    fulfils_dictData fun e he => FieldConfig.fulfils_toData (h e he)
  have hfolders : (dictData .string c.statusFolders).Fulfils writable :=
    fulfils_dictData fun e _ => hstring e.2
  rw [toData_eq]
  refine fulfils_recordEntries (fun _ => trivial) ?_
  simp only [writtenFields, List.forall_mem_cons, Option.forall_mem_map]
  refine ⟨fun _ _ => .number trivial, fun p hp => ?_, fun fs hfs => ?_, fun v hv => ?_,
    fun d hd => ?_, fun _ _ => hstring _, List.forall_mem_nil _⟩
  · exact Option.some.inj hp ▸ hproject
  · split at hfs <;> cases hfs
    exact hfields
  · exact Option.some.inj hv ▸ hvalidation
  · exact Option.some.inj hd ▸ hfolders

/-- A configuration is written and read back without the defaults that are null. -/
theorem ofText_render_of_isStored (hstored : c.IsStored) (hnan : c.HoldsNoNaN)
    (htags : c.HasWritableTags) : ofText c.render = .ok c.withoutNullDefaults := by
  have hfulfils : c.toData.Fulfils writable := fulfils_toData fun e he d hd =>
    (((hstored.fields e he).default d hd).readable ((hnan e he).default d hd)
      (htags e he d hd)).writable
  have hdocument : Yaml.Document.ofText c.render =
      .ok ⟨some c.toData.written, c.toData.written.anchored, c.toData.written.eventCount⟩ :=
    documentOfText_render hfulfils
  simp only [ofText, readText, hdocument, bind, Except.bind, Option.getD_some,
    read_written hstored hnan htags]
  rfl

end Written

/-! ## The round trip -/

/-- A configuration that is read, or that a project starts with. -/
inductive IsMade : Config → Prop where
  | read {text : String} {c : Config} : ofText text = .ok c → IsMade c
  | ofName (name : String) : IsMade (ofName name)
  | starter (name : String) : IsMade (starter name)

section RoundTrip

variable {c : Config}

/-- The fields of a new project have no lengths, no bounds and no default but a text. -/
theorem starter_fields {name : String} {e : String × FieldConfig}
    (he : e ∈ (starter name).fields.entries) :
    e.2.minLength = none ∧ e.2.maxLength = none ∧ e.2.minValue = none ∧ e.2.maxValue = none ∧
      ∀ d ∈ e.2.default, ∃ s, d = .string s := by
  have hmem : e ∈ starterFields := Entries.mem_ofList he
  simp only [starterFields, List.mem_cons, List.not_mem_nil, or_false] at hmem
  rcases hmem with rfl | rfl | rfl | rfl
  · exact ⟨rfl, rfl, rfl, rfl, fun d hd => ⟨_, (Option.some.inj hd).symm⟩⟩
  all_goals exact ⟨rfl, rfl, rfl, rfl, nofun⟩

theorem isStored_starter (name : String) : (starter name).IsStored where
  version := (by decide : 1 < versionBound)
  fields e he := by
    obtain ⟨hmin, hmax, -, -, hdefault⟩ := starter_fields he
    refine ⟨by simp [hmin], by simp [hmax], fun d hd => ?_⟩
    obtain ⟨s, rfl⟩ := hdefault d hd
    exact .string

theorem holdsNoNaN_starter (name : String) : (starter name).HoldsNoNaN := by
  intro e he
  obtain ⟨-, -, hmin, hmax, hdefault⟩ := starter_fields he
  refine ⟨by simp [hmin], by simp [hmax], fun d hd => ?_⟩
  obtain ⟨s, rfl⟩ := hdefault d hd
  exact .string trivial

theorem hasWritableTags_starter (name : String) : (starter name).HasWritableTags := by
  intro e he d hd
  obtain ⟨s, rfl⟩ := (starter_fields he).2.2.2.2 d hd
  exact .string trivial

theorem IsMade.isStored (h : c.IsMade) : c.IsStored := by
  cases h with
  | read htext => exact of_readText gives_read htext
  | ofName name => exact ⟨(by decide : 1 < versionBound), List.forall_mem_nil _⟩
  | starter name => exact isStored_starter name

theorem withoutNullDefaults_eq_iff :
    c.withoutNullDefaults = c ↔ ∀ e ∈ c.fields.entries, e.2.default ≠ some .null := by
  have hfields : c.withoutNullDefaults = c ↔
      (c.fields.map fun _ f => f.withoutNullDefault) = c.fields :=
    ⟨congrArg Config.fields, fun h => by rw [withoutNullDefaults, h]⟩
  exact hfields.trans (Dict.map_eq_self_iff.trans
    (forall₂_congr fun e _ => FieldConfig.withoutNullDefault_eq_iff))

/--
The configuration that a project starts with is read back as it is, whatever the name of the
project.
-/
theorem ofText_render_starter (name : String) :
    ofText (starter name).render = .ok (starter name) := by
  have hgiven : (starter name).withoutNullDefaults = starter name := by
    refine withoutNullDefaults_eq_iff.2 fun e he hnull => ?_
    obtain ⟨s, hs⟩ := (starter_fields he).2.2.2.2 _ hnull
    cases hs
  have hread := ofText_render_of_isStored (isStored_starter name) (holdsNoNaN_starter name)
    (hasWritableTags_starter name)
  rwa [hgiven] at hread

/-- The fields without null defaults come from those that may have them. -/
theorem mem_withoutNullDefaults {e : String × FieldConfig}
    (h : e ∈ c.withoutNullDefaults.fields.entries) :
    ∃ f ∈ c.fields.entries, e.2 = f.2.withoutNullDefault := by
  obtain ⟨f, hf, rfl⟩ := List.mem_map.1 h
  exact ⟨f, hf, rfl⟩

theorem HoldsNoNaN.withoutNullDefaults (h : c.HoldsNoNaN) : c.withoutNullDefaults.HoldsNoNaN := by
  intro e he
  obtain ⟨f, hf, heq⟩ := mem_withoutNullDefaults he
  exact heq ▸ (h f hf).withoutNullDefault

theorem HasWritableTags.withoutNullDefaults (h : c.HasWritableTags) :
    c.withoutNullDefaults.HasWritableTags := by
  intro e he
  obtain ⟨f, hf, heq⟩ := mem_withoutNullDefaults he
  exact heq ▸ (h f hf).withoutNullDefault

theorem withoutNullDefaults_twice :
    c.withoutNullDefaults.withoutNullDefaults = c.withoutNullDefaults := by
  rw [withoutNullDefaults_eq_iff]
  intro e he
  obtain ⟨f, -, heq⟩ := mem_withoutNullDefaults he
  exact heq ▸ FieldConfig.default_withoutNullDefault f.2

/--
A configuration without a NaN whose tags can be written is read back, without the defaults that are
null. So it is the same one exactly if there are none, and from then on it stays the same.
-/
theorem ofText_render_of_isMade (h : c.IsMade) (hnan : c.HoldsNoNaN) (htags : c.HasWritableTags) :
    ofText c.render = .ok c.withoutNullDefaults ∧
      (c.withoutNullDefaults = c ↔ ∀ e ∈ c.fields.entries, e.2.default ≠ some .null) ∧
      ofText c.withoutNullDefaults.render = .ok c.withoutNullDefaults := by
  have hread := ofText_render_of_isStored h.isStored hnan htags
  have hagain := ofText_render_of_isStored (IsMade.read hread).isStored hnan.withoutNullDefaults
    htags.withoutNullDefaults
  rw [withoutNullDefaults_twice] at hagain
  exact ⟨hread, withoutNullDefaults_eq_iff, hagain⟩

/-- The configuration of a new project is read back as it is. -/
theorem ofText_render_of_isMade_starter :
    (starter "p").IsMade ∧ (starter "p").HoldsNoNaN ∧ (starter "p").HasWritableTags ∧
      ofText (starter "p").render = .ok (starter "p") := by
  have hmade : (starter "p").IsMade := .starter "p"
  have hnan := holdsNoNaN_starter "p"
  have htags := hasWritableTags_starter "p"
  obtain ⟨hread, hsame, -⟩ := ofText_render_of_isMade hmade hnan htags
  have hgiven : ∀ e ∈ (starter "p").fields.entries, e.2.default ≠ some .null := by
    intro e he hnull
    obtain ⟨s, hs⟩ := (starter_fields he).2.2.2.2 _ hnull
    cases hs
  rw [hsame.2 hgiven] at hread
  exact ⟨hmade, hnan, htags, hread⟩

end RoundTrip

/-! ## Tags that are not written as they are -/

/-- A default with a tag that holds a comma, which the text it comes from escapes. -/
def commaTag : String :=
  "project: \x7bname: p\x7d\nfields:\n  f:\n    type: string\n    default: !a%2Cb x\n"

/-- The comma is written as it is, and what is written so is no YAML. -/
theorem ofText_render_commaTag :
    ∃ c, ofText commaTag = .ok c ∧ ∀ d, ofText c.render ≠ .ok d := by
  have hread : (ofText commaTag).toOption.map (fun c =>
      (tokens (Data.entryLines 0 true (recordEntries c.writtenFields))).isOk) = some false := by
    decide +kernel
  cases hc : ofText commaTag with
  | error e =>
      rw [hc] at hread
      cases hread
  | ok c =>
      refine ⟨c, rfl, fun d hd => ?_⟩
      have hfails : (tokens c.render.toList).isOk = false := by
        rw [hc] at hread
        rw [toList_render]
        exact Option.some.inj hread
      cases htokens : tokens c.render.toList with
      | ok ts =>
          rw [htokens] at hfails
          cases hfails
      | error e =>
          simp only [ofText, readText, Yaml.Document.ofText, htokens, bind, Except.bind] at hd
          cases hd

end Config
end WorkItems
