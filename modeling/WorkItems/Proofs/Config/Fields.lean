import WorkItems.Proofs.Yaml.WrittenRecords
import WorkItems.Schema.FieldConfig
/-!
# What written fields are read as

A field is read as it was before it was written, except that a default that is null is read as none.
-/

namespace WorkItems.FieldConfig

open Yaml

/-! ## Records as they are written -/

theorem entry_eq {α : Type} (name : String) (toData : α → Data) (a : Option α) :
    entry name toData a = recordEntries [(name, a.map toData)] := by
  cases a <;> rfl

/-- Whether a field is written, and as what. -/
def writtenFields (c : FieldConfig) : List (String × Option Data) := [
  ("type", (some c.fieldType).map typeData),
  ("required", (if c.required then some true else none).map .bool),
  ("default", c.default.map id),
  ("format", c.format.map .string),
  ("min_length", c.minLength.map naturalData),
  ("max_length", c.maxLength.map naturalData),
  ("min_value", c.minValue.map realData),
  ("max_value", c.maxValue.map realData),
  ("min_date", c.minDate.map .string),
  ("max_date", c.maxDate.map .string),
  ("allowed_values", (if c.allowedValues.isEmpty then none else some c.allowedValues).map
    fun ts => .sequence (ts.map .string)),
  ("item_type", c.itemType.map typeData),
  ("unique", (if c.unique then some true else none).map .bool),
  ("schemes", (if c.schemes.isEmpty then none else some c.schemes).map
    fun ts => .sequence (ts.map .string)),
  ("case_sensitive", c.caseSensitive.map .bool)]

theorem toData_eq (c : FieldConfig) : c.toData = .mapping (recordEntries c.writtenFields) := by
  simp only [toData, flagEntry, listEntry, entry_eq, ← recordEntries_append, writtenFields,
    List.cons_append, List.nil_append]

/-! ## Conditions -/

/-- A field within the bounds of those that are read, with a default that was read. -/
structure IsStored (depth : Nat) (c : FieldConfig) : Prop where
  minLength : ∀ n, c.minLength = some n → n < maxLengthBound
  maxLength : ∀ n, c.maxLength = some n → n < maxLengthBound
  default : ∀ d, c.default = some d → IsRead (depth - 1) d

/-- A field without a NaN, neither as a bound nor in its default. -/
structure HoldsNoNaN (c : FieldConfig) : Prop where
  minValue : ∀ x, c.minValue = some x → Decimal.isNaN x = false
  maxValue : ∀ x, c.maxValue = some x → Decimal.isNaN x = false
  default : ∀ d, c.default = some d → d.Fulfils noNaN

/-- A field whose default has writable tags only. -/
def HasWritableTags (c : FieldConfig) : Prop := ∀ d, c.default = some d → d.Fulfils writableTags

/-- A default, unless it is null. -/
def givenDefault? : Option Data → Option Data
  | some .null => none
  | d => d

/-- The field without a default if that is null. -/
def withoutNullDefault (c : FieldConfig) : FieldConfig :=
  { c with default := givenDefault? c.default }

section WithoutNullDefault

variable {c : FieldConfig}

theorem givenDefault?_of_ne {d : Option Data} (h : d ≠ some .null) : givenDefault? d = d := by
  unfold givenDefault?
  split
  · exact absurd rfl h
  · rfl

theorem givenDefault?_ne_null (d : Option Data) : givenDefault? d ≠ some .null := by
  by_cases hnull : d = some .null
  · rw [hnull]
    exact nofun
  · rwa [givenDefault?_of_ne hnull]

theorem eq_some_of_givenDefault? {d : Option Data} {v : Data} (h : givenDefault? d = some v) :
    d = some v := by
  by_cases hnull : d = some .null
  · rw [hnull] at h
    cases h
  · rwa [givenDefault?_of_ne hnull] at h

theorem default_withoutNullDefault (c : FieldConfig) : c.withoutNullDefault.default ≠ some .null :=
  givenDefault?_ne_null c.default

theorem withoutNullDefault_eq_iff : c.withoutNullDefault = c ↔ c.default ≠ some .null := by
  constructor
  · intro h
    exact h ▸ default_withoutNullDefault c
  · intro h
    rw [withoutNullDefault, givenDefault?_of_ne h]

theorem HoldsNoNaN.withoutNullDefault (h : c.HoldsNoNaN) : c.withoutNullDefault.HoldsNoNaN where
  minValue := h.minValue
  maxValue := h.maxValue
  default d hd := h.default d (eq_some_of_givenDefault? hd)

theorem HasWritableTags.withoutNullDefault (h : c.HasWritableTags) :
    c.withoutNullDefault.HasWritableTags := fun d hd => h d (eq_some_of_givenDefault? hd)

end WithoutNullDefault

/-! ## Attributes -/

theorem readType_written (t : FieldType) : readType (typeData t).written = pure t := by
  change (do Read.ofOption (FieldType.ofName? (← (Data.string t.name).written.name))) = _
  rw [name_written, pure_bind, FieldType.ofName?_name]
  rfl

theorem natural_naturalData {n bound : Nat} (h : n < bound) (h64 : n < maxLengthBound) :
    (naturalData n).written.natural bound = pure n := by
  have hn : (UInt64.ofNat n).toNat = n := by
    rw [UInt64.toNat_ofNat']
    exact Nat.mod_eq_of_lt h64
  have hwritten := @natural_written bound (.ofNat n) (by rwa [hn])
  rwa [hn] at hwritten

theorem texts_written (ts : List String) :
    (Data.sequence (ts.map .string)).written.list Node.text = pure ts :=
  list_written fun t _ => text_written t

/-- A list that is not written if it is empty. -/
theorem textsOr_written {r : Record} {name : String} {ts : List String}
    (hfind : r.find? name = ((if ts.isEmpty then none else some ts).map
      fun ts => Data.sequence (ts.map .string)).map Data.written) :
    r.withDefault name [] (Node.list Node.text) = pure ts := by
  refine withDefault_written hfind (fun v hv => ?_) fun hnone => ?_
  · split at hv <;> cases hv
    exact texts_written ts
  · split at hnone
    · exact List.isEmpty_iff.1 ‹_›
    · cases hnone

/-- A flag that is not written unless it is set. -/
theorem flagOr_written {r : Record} {name : String} {b : Bool}
    (hfind : r.find? name = ((if b then some true else none).map Data.bool).map Data.written) :
    r.withDefault name false Node.flag = pure b := by
  refine withDefault_written hfind (fun v hv => ?_) fun hnone => ?_
  · split at hv <;> cases hv
    rename_i hb
    rw [hb]
    exact flag_written true
  · split at hnone
    · cases hnone
    · rename_i hb
      simpa using hb

section Written

variable {c : FieldConfig} {depth : Nat}

/-- A default that is null is written, and read as none. -/
theorem default_written {r : Record} {name : String} {d : Option Data}
    (hfind : r.find? name = (d.map id).map Data.written)
    (hread : ∀ v, d = some v → IsRead depth v ∧ v.Fulfils readable) :
    r.optional name (Node.data depth) = pure (givenDefault? d) := by
  by_cases hnull : d = some .null
  · rw [hnull] at hfind ⊢
    exact withDefault_written hfind (fun v hv => Option.some.inj hv ▸ rfl) nofun
  · rw [givenDefault?_of_ne hnull]
    refine optional_written hfind fun v hv => ?_
    obtain ⟨hv', hreadable⟩ := hread v hv
    exact ⟨isGiven_written hv' hreadable fun heq => hnull (heq ▸ hv), data_written hv' hreadable⟩

theorem read_written (hstored : c.IsStored depth) (hnan : c.HoldsNoNaN)
    (htags : c.HasWritableTags) : read depth c.toData.written = pure c.withoutNullDefault := by
  have hnodup : attributes.Nodup := by decide
  obtain ⟨r, hrecord, hfind⟩ := record_written (toData_eq c) hnodup rfl
  simp only [writtenFields, List.forall_mem_cons] at hfind
  obtain ⟨htype, hrequired, hdefault, hformat, hminLength, hmaxLength, hminValue, hmaxValue,
    hminDate, hmaxDate, hallowed, hitem, hunique, hschemes, hcase, -⟩ := hfind
  have htext : ∀ v, IsGiven (Data.string v).written ∧ (Data.string v).written.text = pure v :=
    fun v => ⟨isGiven_string v, text_written v⟩
  have htypeName : ∀ t, IsGiven (typeData t).written ∧ readType (typeData t).written = pure t :=
    fun t => ⟨isGiven_string _, readType_written t⟩
  have hlength : ∀ n < maxLengthBound, IsGiven (naturalData n).written ∧
      (naturalData n).written.natural maxLengthBound = pure n :=
    fun n hn => ⟨isGiven_natural _, natural_naturalData hn hn⟩
  have hreal : ∀ x, Decimal.isNaN x = false →
      IsGiven (realData x).written ∧ (realData x).written.real = pure x :=
    fun x hx => ⟨isGiven_real hx, real_written hx⟩
  have hdata : ∀ d, c.default = some d → IsRead (depth - 1) d ∧ d.Fulfils readable := fun d hd =>
    ⟨hstored.default d hd, (hstored.default d hd).readable (hnan.default d hd) (htags d hd)⟩
  rw [read, hrecord, pure_bind,
    required_written htype (readType_written _), pure_bind,
    flagOr_written hrequired, pure_bind,
    default_written hdefault hdata, pure_bind,
    optional_written hformat fun v _ => htext v, pure_bind,
    optional_written hminLength fun n hn => hlength n (hstored.minLength n hn), pure_bind,
    optional_written hmaxLength fun n hn => hlength n (hstored.maxLength n hn), pure_bind,
    optional_written hminValue fun x hx => hreal x (hnan.minValue x hx), pure_bind,
    optional_written hmaxValue fun x hx => hreal x (hnan.maxValue x hx), pure_bind,
    optional_written hminDate fun v _ => htext v, pure_bind,
    optional_written hmaxDate fun v _ => htext v, pure_bind,
    textsOr_written hallowed, pure_bind,
    optional_written hitem fun t _ => htypeName t, pure_bind,
    flagOr_written hunique, pure_bind,
    textsOr_written hschemes, pure_bind,
    optional_written hcase fun b _ => ⟨isGiven_bool b, flag_written b⟩, pure_bind]
  rfl

/-- What a field is written as can be printed. -/
theorem fulfils_toData (hdefault : ∀ d ∈ c.default, d.Fulfils writable) :
    c.toData.Fulfils writable := by
  rw [toData_eq]
  refine fulfils_recordEntries (fun _ => trivial) ?_
  have hnumber : ∀ n, (Data.number n).Fulfils writable := fun n => .number trivial
  have hstring : ∀ s, (Data.string s).Fulfils writable := fun s => .string trivial
  have htexts : ∀ ts : List String, (Data.sequence (ts.map .string)).Fulfils writable :=
    fulfils_texts fun _ => trivial
  simp only [writtenFields, List.forall_mem_cons, Option.forall_mem_map]
  exact ⟨fun _ _ => hstring _, fun _ _ => .bool, hdefault, fun _ _ => hstring _,
    fun _ _ => hnumber _, fun _ _ => hnumber _, fun _ _ => hnumber _, fun _ _ => hnumber _,
    fun _ _ => hstring _, fun _ _ => hstring _, fun _ _ => htexts _, fun _ _ => hstring _,
    fun _ _ => .bool, fun _ _ => htexts _, fun _ _ => .bool, List.forall_mem_nil _⟩

/-- What is read is within the bounds. -/
theorem gives_read (depth : Nat) (n : Node) : Gives (IsStored depth) (read depth n) := by
  rw [read]
  refine (gives_true _).bind fun r _ => (gives_true _).bind fun fieldType _ =>
    (gives_true _).bind fun required _ =>
    (r.gives_optional "default" (gives_data (depth - 1))).bind fun default hdefault =>
    (gives_true _).bind fun format _ =>
    (r.gives_optional "min_length" (gives_natural maxLengthBound)).bind fun minLength hminLength =>
    (r.gives_optional "max_length" (gives_natural maxLengthBound)).bind fun maxLength hmaxLength =>
    (gives_true _).bind fun minValue _ => (gives_true _).bind fun maxValue _ =>
    (gives_true _).bind fun minDate _ => (gives_true _).bind fun maxDate _ =>
    (gives_true _).bind fun allowedValues _ => (gives_true _).bind fun itemType _ =>
    (gives_true _).bind fun unique _ => (gives_true _).bind fun schemes _ =>
    (gives_true _).bind fun caseSensitive _ => Gives.pure ?_
  exact ⟨hminLength, hmaxLength, hdefault⟩

end Written

end WorkItems.FieldConfig
