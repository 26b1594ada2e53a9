import WorkItems.Schema.Check
/-!
# What a value has to meet

`Field.check` runs through its conditions and stops at the first that fails. `Field.Meets` says the
same without an order, for a value of the kind that the type of the field asks for
(`Field.HasKind`).
-/

namespace WorkItems

namespace Field

variable (f : Field)

/-! ## Conditions -/

/-- A length between the two that are configured. -/
structure Measures (n : Nat) : Prop where
  least : ∀ a, f.config.minLength = some a → a ≤ n
  greatest : ∀ b, f.config.maxLength = some b → n ≤ b

/-- A number that is neither below the least one nor above the greatest. -/
structure InValues (x : Float) : Prop where
  least : ∀ a, f.config.minValue = some a → ¬x < a
  greatest : ∀ b, f.config.maxValue = some b → ¬b < x

/-- A date that is neither before the earliest one of the day nor behind the latest. -/
structure InDates (today d : Date) : Prop where
  earliest : ∀ b e, f.minDate = some b → b.lower? today = some e → d.lt e = false
  latest : ∀ b l, f.maxDate = some b → b.upper? today = some l → l.lt d = false

/-- An element of an array, as its type asks for. -/
structure IsItem (t : FieldType) (v : Value) : Prop where
  element : isElement t v = true
  allowed : t = .enumeration → (f.allowed? (v.string?.getD "")).isSome = true

/-- An array of allowed length and elements, without a repetition if there must be none. -/
structure IsList (items : List Value) : Prop where
  length : f.Measures items.length
  elements : ∀ t, f.config.itemType = some t → ∀ v ∈ items, f.IsItem t v
  unique : f.config.unique = true → (items.map Value.identityKey).Nodup

/-- A URL with one of the schemes, if some are listed. -/
def IsUrl (s : String) : Prop :=
  ∃ u, Url.ofText s = .ok u ∧ (f.config.schemes = [] ∨ u.lowerScheme ∈ f.config.schemes)

/-- The value is the text, or it is but for case where case does not count. -/
def Matches (value text : String) : Prop :=
  value = text ∨ (f.isCaseSensitive = false ∧ Unicode.lowerCase value = Unicode.lowerCase text)

/-- A value of the kind that the type of a field is for. -/
def HasKind (v : Value) : Prop :=
  match f.fieldType with
  | .number => ∃ n, v = .number n
  | .array => ∃ items, v = .sequence items
  | .string | .date | .email | .url | .enumeration => ∃ s, v = .string s

/-- What a field asks of a value of its kind on the day `today`. -/
def Meets (today : Date) (v : Value) : Prop :=
  match f.fieldType, v with
  | .string, .string s => (∀ p, f.pattern = some p → p.occursIn s = true) ∧ f.Measures s.length
  | .email, .string s => Email.isValid s = true
  | .url, .string s => f.IsUrl s
  | .date, .string s => ∃ d, DateFormat.read? f.dateFormat s = some d ∧ f.InDates today d
  | .enumeration, .string s => (f.allowed? s).isSome = true
  | .number, .number n => f.InValues n.toFloat
  | .array, .sequence items => f.IsList items
  | _, _ => False

variable {f}

/-! ## Checks of one condition -/

/-- A limit that is checked if there is one. -/
def limited {α : Type} (limit : Option α) (exceeded : α → Bool) (e : α → Violation) :
    Except Violation Unit :=
  match limit with
  | some a => if exceeded a then .error (e a) else .ok ()
  | none => .ok ()

theorem limited_eq_ok_iff {α : Type} {limit : Option α} {exceeded : α → Bool} {e : α → Violation} :
    limited limit exceeded e = .ok () ↔ ∀ a, limit = some a → exceeded a = false := by
  cases limit with
  | none => exact iff_of_true rfl fun a ha => nomatch ha
  | some a =>
      rw [limited]
      split
      · rename_i h
        refine iff_of_false (fun heq => nomatch heq) fun hall => ?_
        rw [hall a rfl] at h
        cases h
      · rename_i h
        refine iff_of_true rfl fun b hb => ?_
        rw [← Option.some.inj hb]
        exact Bool.eq_false_iff.2 h

theorem bind_eq_ok_iff {x y : Except Violation Unit} :
    (x.bind fun _ => y) = .ok () ↔ x = .ok () ∧ y = .ok () := by
  cases x with
  | error e => exact iff_of_false (fun h => nomatch h) fun h => nomatch h.1
  | ok u => exact (and_iff_right rfl).symm

theorem checkLength_eq (what : Measured) (n : Nat) :
    f.checkLength what n =
      (limited f.config.minLength (fun a => n < a) (.tooShort what n)).bind fun _ =>
        limited f.config.maxLength (fun b => b < n) (.tooLong what n) := by
  rw [checkLength]
  cases f.config.minLength <;> cases f.config.maxLength <;> simp only [limited, decide_eq_true_eq]
  · rfl
  · rfl
  · split <;> rfl
  · split <;> rfl

theorem checkLength_eq_ok_iff {what : Measured} {n : Nat} :
    f.checkLength what n = .ok () ↔ f.Measures n := by
  rw [checkLength_eq, bind_eq_ok_iff, limited_eq_ok_iff, limited_eq_ok_iff]
  constructor
  · intro h
    exact ⟨fun a ha => by simpa using h.1 a ha, fun b hb => by simpa using h.2 b hb⟩
  · intro h
    exact ⟨fun a ha => by simpa using h.least a ha, fun b hb => by simpa using h.greatest b hb⟩

theorem checkNumber_eq (x : Float) :
    f.checkNumber x =
      (limited f.config.minValue (fun a => x < a) (.tooSmall x)).bind fun _ =>
        limited f.config.maxValue (fun b => b < x) (.tooGreat x) := by
  rw [checkNumber]
  cases f.config.minValue <;> cases f.config.maxValue <;> simp only [limited, decide_eq_true_eq]
  · rfl
  · rfl
  · split <;> rfl
  · split <;> rfl

theorem checkNumber_eq_ok_iff {x : Float} : f.checkNumber x = .ok () ↔ f.InValues x := by
  rw [checkNumber_eq, bind_eq_ok_iff, limited_eq_ok_iff, limited_eq_ok_iff]
  constructor
  · intro h
    exact ⟨fun a ha => of_decide_eq_false (h.1 a ha), fun b hb => of_decide_eq_false (h.2 b hb)⟩
  · intro h
    exact ⟨fun a ha => decide_eq_false (h.least a ha),
      fun b hb => decide_eq_false (h.greatest b hb)⟩

theorem checkDate_eq {today d : Date} {s : String} (h : DateFormat.read? f.dateFormat s = some d) :
    f.checkDate today s =
      (limited (f.minDate.bind (·.lower? today)) (fun e => d.lt e)
        fun e => .tooEarly s (DateFormat.write f.dateFormat e)).bind fun _ =>
          limited (f.maxDate.bind (·.upper? today)) (fun l => l.lt d)
            fun l => .tooLate s (DateFormat.write f.dateFormat l) := by
  rw [checkDate, h]
  cases f.minDate.bind (·.lower? today) <;> cases f.maxDate.bind (·.upper? today) <;>
    simp only [limited]
  · rfl
  · rfl
  · split <;> rfl
  · split <;> rfl

theorem checkDate_eq_ok_iff {today d : Date} {s : String}
    (h : DateFormat.read? f.dateFormat s = some d) :
    f.checkDate today s = .ok () ↔ f.InDates today d := by
  rw [checkDate_eq h, bind_eq_ok_iff, limited_eq_ok_iff, limited_eq_ok_iff]
  constructor
  · intro h
    exact {
      earliest := fun b e hb he => h.1 e (Option.bind_eq_some_iff.2 ⟨b, hb, he⟩)
      latest := fun b l hb hl => h.2 l (Option.bind_eq_some_iff.2 ⟨b, hb, hl⟩) }
  · intro h
    constructor
    · intro e he
      obtain ⟨b, hb, he⟩ := Option.bind_eq_some_iff.1 he
      exact h.earliest b e hb he
    · intro l hl
      obtain ⟨b, hb, hl⟩ := Option.bind_eq_some_iff.1 hl
      exact h.latest b l hb hl

theorem checkElements_eq_ok_iff {t : FieldType} {items : List Value} :
    ∀ {index : Nat}, f.checkElements t index items = .ok () ↔ ∀ v ∈ items, f.IsItem t v := by
  induction items with
  | nil => exact iff_of_true rfl fun v hv => nomatch hv
  | cons v vs ih =>
      intro index
      rw [checkElements, List.forall_mem_cons]
      split
      · rename_i hkind
        refine iff_of_false (fun h => nomatch h) fun h => ?_
        rw [h.1.element] at hkind
        cases hkind
      · rename_i hkind
        have helement : isElement t v = true := by simpa using hkind
        dsimp only
        split
        · rename_i hallowed
          rw [Bool.and_eq_true, decide_eq_true_eq] at hallowed
          refine iff_of_false (fun h => nomatch h) fun h => ?_
          have hsome := h.1.allowed hallowed.1
          rw [Option.isSome_iff_ne_none] at hsome
          exact hsome (Option.isNone_iff_eq_none.1 hallowed.2)
        · rename_i hallowed
          rw [ih]
          refine (and_iff_right ⟨helement, fun ht => ?_⟩).symm
          rw [Option.isSome_iff_ne_none]
          intro hnone
          exact hallowed (by simp [ht, hnone])

theorem checkUnique_eq_ok_iff {items : List Value} : ∀ {seen : List String},
    checkUnique seen items = .ok () ↔
      (∀ v ∈ items, v.identityKey ∉ seen) ∧ (items.map Value.identityKey).Nodup := by
  induction items with
  | nil =>
      intro seen
      exact iff_of_true rfl ⟨List.forall_mem_nil _, List.nodup_nil⟩
  | cons v vs ih =>
      intro seen
      rw [checkUnique, List.forall_mem_cons, List.map_cons, List.nodup_cons]
      split
      · rename_i hseen
        refine iff_of_false (fun h => nomatch h) fun h => ?_
        exact h.1.1 (by simpa using hseen)
      · rename_i hseen
        have hnew : v.identityKey ∉ seen := by simpa using hseen
        rw [ih]
        constructor
        · rintro ⟨hvs, hnodup⟩
          refine ⟨⟨hnew, fun w hw hmem => hvs w hw (List.mem_cons_of_mem _ hmem)⟩, ?_, hnodup⟩
          intro hmem
          obtain ⟨w, hw, heq⟩ := List.mem_map.1 hmem
          exact hvs w hw (heq ▸ List.mem_cons_self ..)
        · rintro ⟨⟨-, hvs⟩, hv, hnodup⟩
          refine ⟨fun w hw hmem => ?_, hnodup⟩
          rcases List.mem_cons.1 hmem with heq | hmem
          · exact hv (heq ▸ List.mem_map_of_mem hw)
          · exact hvs w hw hmem

/-- The elements are checked if their type is configured, and repetitions if there must be none. -/
theorem checkArray_eq (items : List Value) :
    f.checkArray items =
      (f.checkLength .array items.length).bind fun _ =>
        ((f.config.itemType.elim (.ok ()) fun t => f.checkElements t 0 items).bind fun _ =>
          if f.config.unique then checkUnique [] items else .ok ()) := by
  rw [checkArray]
  cases f.config.itemType <;> rfl

theorem checkArray_eq_ok_iff {items : List Value} :
    f.checkArray items = .ok () ↔ f.IsList items := by
  have helements : (f.config.itemType.elim (.ok ()) fun t => f.checkElements t 0 items) = .ok () ↔
      ∀ t, f.config.itemType = some t → ∀ v ∈ items, f.IsItem t v := by
    cases f.config.itemType with
    | none => exact iff_of_true rfl fun t ht => nomatch ht
    | some t =>
        rw [Option.elim, checkElements_eq_ok_iff]
        constructor
        · rintro h _ ⟨⟩
          exact h
        · intro h
          exact h t rfl
  have hunique : (if f.config.unique then checkUnique [] items else .ok ()) = .ok () ↔
      (f.config.unique = true → (items.map Value.identityKey).Nodup) := by
    split
    · rename_i h
      rw [checkUnique_eq_ok_iff]
      exact ⟨fun hitems _ => hitems.2, fun hitems => ⟨fun _ _ => List.not_mem_nil, hitems h⟩⟩
    · rename_i h
      exact iff_of_true rfl fun hunique => absurd hunique h
  rw [checkArray_eq, bind_eq_ok_iff, bind_eq_ok_iff, checkLength_eq_ok_iff, helements, hunique]
  exact ⟨fun h => ⟨h.1, h.2.1, h.2.2⟩, fun h => ⟨h.length, h.elements, h.unique⟩⟩

theorem checkPattern_eq_ok_iff {s : String} :
    f.checkPattern s = .ok () ↔ ∀ p, f.pattern = some p → p.occursIn s = true := by
  rw [checkPattern]
  cases f.pattern with
  | none => exact iff_of_true rfl fun p hp => nomatch hp
  | some p =>
      dsimp only
      split
      · rename_i h
        refine iff_of_true rfl ?_
        rintro _ ⟨⟩
        exact h
      · rename_i h
        exact iff_of_false (fun heq => nomatch heq) fun hall => h (hall p rfl)

/-- A condition that is a flag passes exactly if the flag is set. -/
theorem flag_eq_ok_iff {b : Bool} {e : Violation} :
    (if b = true then Except.ok () else .error e) = (.ok () : Except Violation Unit) ↔
    b = true := by
  cases b with
  | false => exact iff_of_false (fun h => nomatch h) (fun h => nomatch h)
  | true => exact iff_of_true rfl rfl

theorem allowed?_eq_none_iff {text : String} :
    f.allowed? text = none ↔ ∀ value ∈ f.config.allowedValues, ¬f.Matches value text := by
  constructor
  · intro h value hvalue hmatch
    simp only [allowed?] at h
    split at h
    · cases h
    · rename_i hexact
      rcases hmatch with rfl | ⟨hcase, heq⟩
      · exact List.find?_eq_none.1 hexact value hvalue (beq_self_eq_true value)
      · rw [hcase, if_neg Bool.false_ne_true] at h
        exact List.find?_eq_none.1 h value hvalue (beq_iff_eq.2 heq)
  · intro h
    have hexact : f.config.allowedValues.find? (· == text) = none :=
      List.find?_eq_none.2 fun value hvalue heq => h value hvalue (.inl (beq_iff_eq.1 heq))
    simp only [allowed?, hexact]
    split
    · rfl
    · rename_i hcase
      refine List.find?_eq_none.2 fun value hvalue heq => h value hvalue (.inr ?_)
      exact ⟨Bool.eq_false_iff.2 hcase, beq_iff_eq.1 heq⟩

/-- Some allowed value stands for a text exactly if one matches it. -/
theorem isSome_allowed?_iff {text : String} :
    (f.allowed? text).isSome = true ↔ ∃ value ∈ f.config.allowedValues, f.Matches value text := by
  rw [Option.isSome_iff_ne_none, ne_eq, allowed?_eq_none_iff]
  simp only [Classical.not_forall, Classical.not_not, exists_prop]

/--
A text that is a URL passes the check of its type, and then that of its scheme if it has a listed
one.
-/
theorem url_eq_ok_iff {s : String} (htype : f.fieldType = .url) :
    f.checkType (.string s) = .ok () ∧ f.checkFormat (.string s) = .ok () ↔ f.IsUrl s := by
  cases hurl : Url.ofText s with
  | error e =>
      simp only [checkType, htype, hurl, IsUrl]
      exact iff_of_false (fun h => nomatch h.1) fun ⟨u, hu, _⟩ => nomatch hu
  | ok u =>
      have hscheme : (f.config.schemes.isEmpty || f.config.schemes.contains u.lowerScheme) = true ↔
          f.config.schemes = [] ∨ u.lowerScheme ∈ f.config.schemes := by simp
      simp only [checkType, checkFormat, htype, schemeOf, hurl, IsUrl]
      rw [flag_eq_ok_iff, hscheme]
      constructor
      · rintro ⟨-, h⟩
        exact ⟨u, rfl, h⟩
      · rintro ⟨_, ⟨⟩, h⟩
        exact ⟨trivial, h⟩

theorem date_eq_ok_iff {today : Date} {s : String} (htype : f.fieldType = .date) :
    f.checkFormat (.string s) = .ok () ∧ f.checkRange today (.string s) = .ok () ↔
      ∃ d, DateFormat.read? f.dateFormat s = some d ∧ f.InDates today d := by
  simp only [checkFormat, checkRange, htype]
  cases hread : DateFormat.read? f.dateFormat s with
  | none => exact iff_of_false (fun h => nomatch h.1) fun ⟨d, hd, _⟩ => nomatch hd
  | some d =>
      rw [checkDate_eq_ok_iff hread]
      constructor
      · rintro ⟨-, h⟩
        exact ⟨d, rfl, h⟩
      · rintro ⟨_, ⟨⟩, h⟩
        exact ⟨rfl, h⟩

/-! ## All checks -/

theorem check_eq (today : Date) (v : Value) :
    f.check today v = (f.checkType v).bind fun _ => (f.checkFormat v).bind fun _ =>
      (f.checkAllowed v).bind fun _ => f.checkRange today v := rfl

/-- A value of its kind is accepted exactly if it meets what the field asks. -/
theorem check_eq_ok_iff {today : Date} {v : Value} (h : f.HasKind v) :
    f.check today v = .ok () ↔ f.Meets today v := by
  rw [check_eq, bind_eq_ok_iff, bind_eq_ok_iff, bind_eq_ok_iff]
  rw [HasKind] at h
  cases htype : f.fieldType <;> simp only [htype] at h
  case number =>
      obtain ⟨n, rfl⟩ := h
      simp only [checkType, checkFormat, checkAllowed, checkRange, Meets, htype, true_and]
      exact checkNumber_eq_ok_iff
  case array =>
      obtain ⟨items, rfl⟩ := h
      simp only [checkType, checkFormat, checkAllowed, checkRange, Meets, htype, true_and]
      exact checkArray_eq_ok_iff
  case string =>
      obtain ⟨s, rfl⟩ := h
      simp only [checkType, checkFormat, checkAllowed, checkRange, Meets, htype, true_and]
      rw [checkPattern_eq_ok_iff, checkLength_eq_ok_iff]
  case email =>
      obtain ⟨s, rfl⟩ := h
      simp only [checkType, checkFormat, checkAllowed, checkRange, Meets, htype, and_true]
      exact flag_eq_ok_iff
  case url =>
      obtain ⟨s, rfl⟩ := h
      have hrest : f.checkAllowed (.string s) = .ok () ∧
          f.checkRange today (.string s) = .ok () := by
        simp only [checkAllowed, checkRange, htype, and_true]
      rw [← and_assoc, url_eq_ok_iff htype, and_iff_left hrest]
      simp only [Meets, htype]
  case date =>
      obtain ⟨s, rfl⟩ := h
      have hkind : f.checkType (.string s) = .ok () := by simp only [checkType, htype]
      have hallowed : f.checkAllowed (.string s) = .ok () := by simp only [checkAllowed, htype]
      rw [and_iff_right hkind, and_iff_right hallowed, date_eq_ok_iff htype]
      simp only [Meets, htype]
  case enumeration =>
      obtain ⟨s, rfl⟩ := h
      simp only [checkType, checkFormat, checkAllowed, checkRange, Meets, htype, true_and, and_true]
      exact flag_eq_ok_iff

end Field
end WorkItems
