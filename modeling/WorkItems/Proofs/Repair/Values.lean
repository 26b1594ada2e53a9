import WorkItems.Proofs.Calendar.Marks
import WorkItems.Proofs.Dict
import WorkItems.Proofs.Email
import WorkItems.Proofs.Unicode.Case
import WorkItems.Proofs.Value
import WorkItems.Repair
/-!
# Values in canonical form

The canonical form of a text is canonical itself, for every type of field in its own way: an address
is trimmed and in lower case, an allowed value stands for itself, and a date is in the format of the
field, provided that the format reads back what it writes. None of them is blank unless the text
was. So a value that was restated once is not restated again, and a filled field stays filled.
-/

namespace WorkItems

/-! ## Addresses -/

namespace Repair

theorem canonicalEmail_cases (text : String) :
    (canonicalEmail text = Text.strip text ∧
        (Unicode.lowerCase (Text.strip text) ≠ Text.strip text →
          Email.isValid (Unicode.lowerCase (Text.strip text)) = false)) ∨
      (canonicalEmail text = Unicode.lowerCase (Text.strip text) ∧
        Email.isValid (Unicode.lowerCase (Text.strip text)) = true) := by
  simp only [canonicalEmail, Bool.and_eq_true, decide_eq_true_eq]
  split
  · exact .inr ⟨rfl, (‹_ ∧ _›).2⟩
  · rename_i h
    exact .inl ⟨rfl, fun hne => Bool.eq_false_iff.2 fun hvalid => h ⟨hne, hvalid⟩⟩

theorem canonicalEmail_idempotent (text : String) :
    canonicalEmail (canonicalEmail text) = canonicalEmail text := by
  have htrim := Text.trimmed_strip text
  rcases canonicalEmail_cases text with ⟨heq, hkeep⟩ | ⟨heq, hvalid⟩
  · rw [heq]
    rcases canonicalEmail_cases (Text.strip text) with ⟨h, -⟩ | ⟨h, hvalid⟩
    · rw [h, Text.strip_eq_self htrim]
    · rw [Text.strip_eq_self htrim] at h hvalid
      rw [h]
      refine Classical.byContradiction fun hne => ?_
      rw [hkeep hne] at hvalid
      cases hvalid
  · have hlower := Unicode.lowerCase_lowerCase (Email.toNat_lt_of_isValid hvalid)
    have hstrip := Text.strip_eq_self (Unicode.trimmed_lowerCase.2 htrim)
    rw [heq]
    rcases canonicalEmail_cases (Unicode.lowerCase (Text.strip text)) with ⟨h, -⟩ | ⟨h, -⟩
    · rw [h, hstrip]
    · rw [h, hstrip, hlower]

theorem isBlankText_canonicalEmail (text : String) :
    Text.isBlankText (canonicalEmail text) = Text.isBlankText text := by
  rcases canonicalEmail_cases text with ⟨h, -⟩ | ⟨h, -⟩
  · rw [h, Text.isBlankText_strip]
  · rw [h, Unicode.isBlankText_lowerCase, Text.isBlankText_strip]

end Repair

/-! ## Allowed values -/

namespace Field

variable {f : Field} {text value : String}

/-- The allowed value of a text is one of them, and but for case the text itself. -/
theorem allowed?_spec (h : f.allowed? text = some value) :
    value ∈ f.config.allowedValues ∧ Unicode.lowerCase value = Unicode.lowerCase text := by
  simp only [allowed?] at h
  split at h
  · rename_i v hv
    cases h
    have heq := List.find?_some hv
    exact ⟨List.mem_of_find?_eq_some hv, congrArg _ (beq_iff_eq.1 heq)⟩
  · split at h
    · cases h
    · have heq := List.find?_some h
      exact ⟨List.mem_of_find?_eq_some h, beq_iff_eq.1 heq⟩

/-- An allowed value stands for itself. -/
theorem allowed?_self (h : value ∈ f.config.allowedValues) : f.allowed? value = some value := by
  have hfind : ∃ v, f.config.allowedValues.find? (· == value) = some v := by
    rw [← Option.isSome_iff_exists, List.find?_isSome]
    exact ⟨value, h, beq_self_eq_true value⟩
  obtain ⟨v, hv⟩ := hfind
  have heq := List.find?_some hv
  simp only [allowed?, hv, beq_iff_eq.1 heq]

theorem isBlankText_allowed? (h : f.allowed? text = some value) :
    Text.isBlankText value = Text.isBlankText text := by
  rw [← Unicode.isBlankText_lowerCase value, (allowed?_spec h).2, Unicode.isBlankText_lowerCase]

theorem trimmed_allowed? (h : f.allowed? text = some value) (htext : Text.Trimmed text.toList) :
    Text.Trimmed value.toList := by
  rw [← Unicode.trimmed_lowerCase, (allowed?_spec h).2, Unicode.trimmed_lowerCase]
  exact htext

/-- Every date that the format of a date field writes can be read by it again. -/
def ReadsDatesBack (f : Field) : Prop :=
  f.fieldType = .date →
    ∀ d, (DateFormat.read? f.dateFormat (DateFormat.write f.dateFormat d)).isSome = true

/-- What the format of a date field writes has something in it, whatever the date. -/
def ShowsDates (f : Field) : Prop :=
  f.fieldType = .date → ∀ d, Text.isBlankText (DateFormat.write f.dateFormat d) = false

theorem ReadsDatesBack.showsDates (h : f.ReadsDatesBack) : f.ShowsDates := by
  intro hdate d
  obtain ⟨e, he⟩ := Option.isSome_iff_exists.1 (h hdate d)
  exact DateFormat.isBlankText_write (DateFormat.parse?_of_read? he) d

end Field

/-! ## All types -/

namespace Repair

variable {f : Field} {text new : String}

/-- A canonical form is restated no more. -/
theorem canonical?_canonical? (hf : f.ReadsDatesBack) (h : canonical? f text = some new) :
    ∀ again, canonical? f new = some again → again = new := by
  intro again hagain
  rw [canonical?] at h hagain
  split at h
  · rename_i hdate
    simp only [hdate] at hagain
    split at h
    · cases h
    · obtain ⟨d, -, rfl⟩ := Option.map_eq_some_iff.1 h
      rw [if_pos (hf hdate d)] at hagain
      cases hagain
  · rename_i henum
    simp only [henum] at hagain
    have hvalue := (Field.allowed?_spec h).1
    have htrim := Field.trimmed_allowed? h (Text.trimmed_strip text)
    rw [Text.strip_eq_self htrim, Field.allowed?_self hvalue] at hagain
    exact (Option.some.inj hagain).symm
  · rename_i hemail
    simp only [hemail] at hagain
    obtain rfl := Option.some.inj h
    rw [canonicalEmail_idempotent] at hagain
    exact (Option.some.inj hagain).symm
  · cases h

/-- The canonical form of a text with something in it has something in it. -/
theorem isBlankText_canonical? (hf : f.ShowsDates) (h : canonical? f text = some new)
    (htext : Text.isBlankText text = false) : Text.isBlankText new = false := by
  rw [canonical?] at h
  split at h
  · rename_i hdate
    split at h
    · cases h
    · obtain ⟨d, -, rfl⟩ := Option.map_eq_some_iff.1 h
      exact hf hdate d
  · rw [Field.isBlankText_allowed? h, Text.isBlankText_strip, htext]
  · obtain rfl := Option.some.inj h
    rw [isBlankText_canonicalEmail, htext]
  · cases h

/-! ## Restating -/

variable {s : Schema} {name : String}

/-- What is restated is a text with something in it, of which the field knows another form. -/
theorem restatement?_eq_some {v : Value} {old new : String}
    (h : restatement? s name v = some (old, new)) :
    ∃ f, s.field? name = some f ∧ v = .string old ∧ Text.isBlankText old = false ∧
      canonical? f old = some new ∧ new ≠ old := by
  rw [restatement?] at h
  obtain ⟨f, hf, h⟩ := Option.bind_eq_some_iff.1 h
  obtain ⟨text, htext, h⟩ := Option.bind_eq_some_iff.1 h
  split at h
  · cases h
  · rename_i hblank
    obtain ⟨again, hcanonical, h⟩ := Option.bind_eq_some_iff.1 h
    split at h
    · cases h
    · rename_i hne
      cases h
      exact ⟨f, hf, Value.eq_string_of_string? htext, Bool.eq_false_iff.2 hblank, hcanonical, hne⟩

theorem mem_values_of_field? {f : Field} (h : s.field? name = some f) : f ∈ s.fields.values :=
  List.mem_map_of_mem (f := (·.2)) (Entries.mem_of_find? h)

/-- A restated value is not restated again. -/
theorem restatement?_restated (hs : ∀ f ∈ s.fields.values, f.ReadsDatesBack) (name : String)
    (v : Value) : restatement? s name (restated s name v) = none := by
  rw [restated]
  split
  · rename_i old new hnew
    obtain ⟨f, hf, -, -, hcanonical, -⟩ := restatement?_eq_some hnew
    refine Option.eq_none_iff_forall_ne_some.2 ?_
    rintro ⟨again, third⟩ hagain
    obtain ⟨g, hg, hstring, -, hthird, hne⟩ := restatement?_eq_some hagain
    cases hstring
    obtain rfl := Option.some.inj (hf.symm.trans hg)
    exact hne (canonical?_canonical? (hs f (mem_values_of_field? hf)) hcanonical third hthird)
  · assumption

/-- A value that is filled in stays so when it is restated. -/
theorem isVacant_restated (hs : ∀ f ∈ s.fields.values, f.ShowsDates) {v : Value}
    (hv : v.isVacant = false) : (restated s name v).isVacant = false := by
  rw [restated]
  split
  · rename_i old new hnew
    obtain ⟨f, hf, rfl, hblank, hcanonical, -⟩ := restatement?_eq_some hnew
    exact isBlankText_canonical? (hs f (mem_values_of_field? hf)) hcanonical hblank
  · exact hv

theorem find?_fixValues_eq_map (s : Schema) (item : Item) (name : String) :
    (fixValues s item).1.fields.find? name = (item.fields.find? name).map (restated s name) :=
  Entries.find?_map (restated s) name item.fields.entries

end Repair
end WorkItems
