import WorkItems.Proofs.Except
import WorkItems.Schema.Field
/-!
# Fields of a configuration

`Field.ofConfig` stops at the first thing that is wrong. When it gives a field, all of its
conditions hold, and the field has its parts from the configuration (`Field.IsMadeFrom`).
-/

namespace WorkItems

namespace Field

variable {name : String} {c : FieldConfig} {f : Field}

/-- A field with the parts that a configuration gives it, of which nothing is wrong. -/
structure IsMadeFrom (f : Field) (name : String) (c : FieldConfig) : Prop where
  name : f.name = name
  config : f.config = { c with schemes := c.schemes.map Text.lowerAscii }
  pattern : readTyped c = .ok f.pattern
  dateFormat : f.dateFormat = DateFormat.effective c.format
  lengths : checkLengths c = .ok ()
  values : checkValues c = .ok ()
  minDate : readBound f.dateFormat c.minDate = .ok f.minDate
  maxDate : readBound f.dateFormat c.maxDate = .ok f.maxDate
  dates : checkDates f.minDate f.maxDate = .ok ()

theorem isMadeFrom_of_ofConfig (h : ofConfig name c = .ok f) : f.IsMadeFrom name c := by
  rw [ofConfig] at h
  obtain ⟨pattern, hpattern, h⟩ := exists_of_bind_eq_ok h
  obtain ⟨_, hlengths, h⟩ := exists_of_bind_eq_ok h
  obtain ⟨_, hvalues, h⟩ := exists_of_bind_eq_ok h
  obtain ⟨minDate, hminDate, h⟩ := exists_of_bind_eq_ok h
  obtain ⟨maxDate, hmaxDate, h⟩ := exists_of_bind_eq_ok h
  obtain ⟨_, hdates, h⟩ := exists_of_bind_eq_ok h
  obtain rfl := Except.ok.inj h
  exact {
    name := rfl
    config := rfl
    pattern := hpattern
    dateFormat := rfl
    lengths := hlengths
    values := hvalues
    minDate := hminDate
    maxDate := hmaxDate
    dates := hdates }

theorem IsMadeFrom.fieldType (h : f.IsMadeFrom name c) : f.fieldType = c.fieldType := by
  rw [Field.fieldType, h.config]

/-- The format of a date field that a configuration gives can be used. -/
theorem IsMadeFrom.check_dateFormat (h : f.IsMadeFrom name c) (hdate : f.fieldType = .date) :
    DateFormat.check f.dateFormat = .ok () := by
  have hpattern := h.pattern
  rw [readTyped, ← h.fieldType, hdate] at hpattern
  rw [h.dateFormat]
  dsimp only at hpattern
  split at hpattern
  · assumption
  · cases hpattern

end Field
end WorkItems
