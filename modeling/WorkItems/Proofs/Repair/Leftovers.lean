import WorkItems.Proofs.Repair.Idempotent
import WorkItems.Proofs.Repair.ValidValues
/-!
# What restating leaves behind

Not every value can be restated in the form that its field asks for. Behind a repair those are left
that cannot: a text that no allowed value stands for, one that is no address, and one in which no
date is found. So for each type of field there are two ways to get there. Either a canonical form is
known, then it has the right form itself, or none is known, then the text has the right form or no
form at all.

An address needs both. It is restated in lower case if it is an address in lower case, and not if it
is one as it stands; but letters that are an address in one case are so in the other
(`Email.isValid_lowerAscii`).
-/

namespace WorkItems

variable {f : Field} {text value : String}

namespace Field

/-! ## Texts that are left as they are -/

/-- A text that cannot be restated any further, as the type of its field has it. -/
structure IsRepaired (f : Field) (text : String) : Prop where
  allowed : f.fieldType = .enumeration → text ∈ f.config.allowedValues ∨
    ∀ value ∈ f.config.allowedValues, ¬f.Matches value (Text.strip text)
  trimmed : f.fieldType = .email → Text.Trimmed text.toList
  lowerCase : f.fieldType = .email → Email.isValid text = true → Unicode.lowerCase text = text
  date : f.fieldType = .date → f.dateFormat = DateFormat.standard →
    (DateFormat.readIso? text).isSome = true ∨ DateFormat.readAlternate? text = none

end Field

namespace Repair

/-! ## Addresses -/

theorem trimmed_canonicalEmail (text : String) : Text.Trimmed (canonicalEmail text).toList := by
  rcases canonicalEmail_cases text with ⟨heq, -⟩ | ⟨heq, -⟩
  · rw [heq]
    exact Text.trimmed_strip text
  · rw [heq, Unicode.trimmed_lowerCase]
    exact Text.trimmed_strip text

/-- An address in lower case is one, so it is not overlooked. -/
theorem isValid_lowerCase (h : Email.isValid text = true) :
    Email.isValid (Unicode.lowerCase text) = true := by
  rw [Unicode.lowerCase_eq_lowerAscii (Email.toNat_lt_of_isValid h), Email.isValid_lowerAscii, h]

theorem lowerCase_canonicalEmail (h : Email.isValid (canonicalEmail text) = true) :
    Unicode.lowerCase (canonicalEmail text) = canonicalEmail text := by
  rcases canonicalEmail_cases text with ⟨heq, hkeep⟩ | ⟨heq, hvalid⟩
  · rw [heq] at h ⊢
    refine Classical.byContradiction fun hne => ?_
    have hinvalid := hkeep hne
    rw [isValid_lowerCase h] at hinvalid
    cases hinvalid
  · rw [heq]
    exact Unicode.lowerCase_lowerCase (Email.toNat_lt_of_isValid hvalid)

/-! ## All types -/

/-- The canonical form of a text is left as it is. -/
theorem isRepaired_canonical? {old : String} (h : canonical? f old = some text) :
    f.IsRepaired text := by
  rw [canonical?] at h
  constructor
  · intro henum
    simp only [henum] at h
    exact .inl (Field.allowed?_spec h).1
  · intro hemail
    simp only [hemail] at h
    obtain rfl := Option.some.inj h
    exact trimmed_canonicalEmail old
  · intro hemail hvalid
    simp only [hemail] at h
    obtain rfl := Option.some.inj h
    exact lowerCase_canonicalEmail hvalid
  · intro hdate hstandard
    simp only [hdate] at h
    split at h
    · cases h
    · obtain ⟨d, -, rfl⟩ := Option.map_eq_some_iff.1 h
      rw [hstandard]
      exact .inl (Option.isSome_of_eq_some (DateFormat.readsBack_standard d))

/--
A text without a canonical form is one that no value or date is found for, or has its form already.
-/
theorem isRepaired_of_canonical?_eq_none (h : canonical? f text = none) : f.IsRepaired text := by
  rw [canonical?] at h
  constructor
  · intro henum
    simp only [henum] at h
    exact .inr (Field.allowed?_eq_none_iff.1 h)
  · intro hemail
    simp only [hemail] at h
    cases h
  · intro hemail
    simp only [hemail] at h
    cases h
  · intro hdate hstandard
    simp only [hdate] at h
    split at h
    · rename_i hread
      rw [hstandard] at hread
      exact .inl hread
    · exact .inr (Option.map_eq_none_iff.1 h)

/-! ## An item -/

variable {s : Schema} {item : Item} {name : String}

/-- A text behind the repair is a canonical form, that of itself maybe, or has none. -/
theorem canonical?_fixValues (hf : s.field? name = some f)
    (hvalue : (fixValues s item).1.fields.find? name = some (.string text))
    (hblank : Text.isBlankText text = false) :
    (∃ old, canonical? f old = some text) ∨ canonical? f text = none := by
  rw [find?_fixValues_eq_map] at hvalue
  obtain ⟨v, -, hv⟩ := Option.map_eq_some_iff.1 hvalue
  rw [restated] at hv
  split at hv
  · rename_i old new hnew
    obtain ⟨g, hg, -, -, hcanonical, -⟩ := restatement?_eq_some hnew
    obtain rfl := Option.some.inj (hf.symm.trans hg)
    obtain rfl := Value.string.inj hv
    exact .inl ⟨old, hcanonical⟩
  · subst hv
    rename_i hnone
    cases hcanonical : canonical? f text with
    | none => exact .inr rfl
    | some new =>
        refine .inl ⟨text, hcanonical.trans (congrArg some ?_)⟩
        refine Classical.byContradiction fun hne => ?_
        simp [restatement?, hf, Value.string?, hblank, hcanonical, hne] at hnone

/--
Behind a repair every text with something in it cannot be restated any further: it is one of the
allowed values, or no allowed value stands for it without the blanks around it; it has no blanks
around it, and no capital letters if it is an address; it is a date in the standard format, or is
not read as a date at all.
-/
theorem fixing_leaves_repaired (s : Schema) (item : Item) :
    ∀ name f text, s.field? name = some f →
      (fixValues s item).1.fields.find? name = some (.string text) →
      Text.isBlankText text = false → f.IsRepaired text := by
  intro name f text hf hvalue hblank
  rcases canonical?_fixValues hf hvalue hblank with ⟨old, hcanonical⟩ | hnone
  · exact isRepaired_canonical? hcanonical
  · exact isRepaired_of_canonical?_eq_none hnone

/-- A project whose items have an owner, besides a level and a date. -/
def ownerConfig : Config :=
  { Config.ofName "p" with
    fields := .ofList [
      ("due", { fieldType := .date }),
      ("level", {
        fieldType := .enumeration
        allowedValues := ["low", "high"]
        caseSensitive := some false }),
      ("owner", { fieldType := .email })]
    validation := { idFormat := "[0-9]" } }

/-- An item with all three, of which the level is none of the allowed ones. -/
def ownerItem : Item :=
  { Item.empty with
    fields := .ofList [
      ("due", .string "12/31/2024"), ("level", .string "urgent"),
      ("owner", .string " Ann@Site.Org ")] }

/-- The fields of that project, with what they are restated to. -/
def ownerTexts : List (String × FieldType × String) :=
  [("due", .date, "2024-12-31"), ("level", .enumeration, "urgent"),
    ("owner", .email, "ann@site.org")]

theorem fixing_leaves_repaired_owner :
    ∃ s, Schema.ofConfig ownerConfig = .ok s ∧ ∀ name type text, (name, type, text) ∈ ownerTexts →
      ∃ f, s.field? name = some f ∧ f.fieldType = type ∧
        (fixValues s ownerItem).1.fields.find? name = some (.string text) ∧
        Text.isBlankText text = false ∧ f.IsRepaired text := by
  have hschema : (Schema.ofConfig ownerConfig).toOption.map (fun s =>
      ownerTexts.map fun e => ((s.field? e.1).map Field.fieldType,
        ((fixValues s ownerItem).1.fields.find? e.1).bind Value.string?)) =
      some (ownerTexts.map fun e => (some e.2.1, some e.2.2)) := by
    decide +kernel
  obtain ⟨s, hs, hcompiled⟩ := exists_ok hschema
  refine ⟨s, hs, fun name type text hmem => ?_⟩
  obtain ⟨hfield, htext⟩ := Prod.mk.inj (List.map_inj_left.1 hcompiled _ hmem)
  obtain ⟨f, hf, htype⟩ := Option.map_eq_some_iff.1 hfield
  obtain ⟨v, hv, hstring⟩ := Option.bind_eq_some_iff.1 htext
  obtain rfl := Value.eq_string_of_string? hstring
  have hblank : ∀ e ∈ ownerTexts, Text.isBlankText e.2.2 = false := by decide
  have hblank := hblank _ hmem
  exact ⟨f, hf, htype, hv, hblank, fixing_leaves_repaired s ownerItem name f text hf hv hblank⟩

end Repair

end WorkItems
