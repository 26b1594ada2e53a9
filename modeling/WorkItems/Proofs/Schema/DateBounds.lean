import WorkItems.Proofs.Calendar.Order
import WorkItems.Proofs.Schema.Check
import WorkItems.Proofs.Schema.OfConfig
/-!
# Bounds of dates

What a configuration writes as a bound is read once, when the field is made, and compared on every
day anew. Between the two stands a `DateBound`, and here it is left out: `AllowsFrom` and
`AllowsUpTo` say of the text itself which dates it allows on a day, and a date field accepts the
texts that show such a date (`Field.check_date_bounds`).

Blanks around a bound do not belong to it, so it is what is between them that names a date. On the
last date of the calendar `future` allows every date as there is no next one, which is why that day
is left out.
-/

namespace WorkItems

/-! ## Texts of dates -/

namespace DateFormat

variable {format s : String} {d e : Date}

/-- A text that is read as a date and that is what is written for it. -/
def Shows (format s : String) (d : Date) : Prop :=
  DatePattern.parse? format s = some d ∧ DatePattern.format? format d = some s

theorem read?_eq_some_iff : read? format s = some d ↔ Shows format s d := by
  rw [read?, Shows]
  cases DatePattern.parse? format s with
  | none => exact iff_of_false (fun h => nomatch h) fun h => nomatch h.1
  | some e =>
      change (if DatePattern.format? format e = some s then some e else none) = some d ↔ _
      split
      · rename_i hwrite
        constructor
        · rintro ⟨⟩
          exact ⟨rfl, hwrite⟩
        · exact And.left
      · rename_i hwrite
        refine iff_of_false (fun h => nomatch h) ?_
        rintro ⟨⟨⟩, h⟩
        exact hwrite h

end DateFormat

/-! ## Texts of bounds -/

namespace DateBound

/-- The word that a bound may be, in whatever case and between blanks. -/
def word (t : String) : String := Text.lowerAscii (Text.strip t)

/--
A bound names the date that it shows in the format, or else the one that it shows as year, month and
day.
-/
def Names (format t : String) (m : Date) : Prop :=
  DateFormat.Shows format (Text.strip t) m ∨
    (∀ e, ¬DateFormat.Shows format (Text.strip t) e) ∧
    DateFormat.Shows DateFormat.standard (Text.strip t) m

/-- The dates that a text allows as a lower bound. -/
def AllowsFrom (format t : String) (today d : Date) : Prop :=
  if Text.isBlankText t = true then True
  else if word t = "today" then d.lt today = false
  else if word t = "future" then today.lt d = true
  else ∃ m, Names format t m ∧ d.lt m = false

/-- The dates that a text allows as an upper bound. -/
def AllowsUpTo (format t : String) (today d : Date) : Prop :=
  if Text.isBlankText t = true then True
  else if word t = "today" then today.lt d = false
  else if word t = "future" then True
  else ∃ m, Names format t m ∧ m.lt d = false

variable {format t : String} {today d m : Date}

theorem names_iff :
    Names format t m ↔
      (DateFormat.read? format (Text.strip t)).or (DateFormat.readIso? (Text.strip t)) =
        some m := by
  simp only [Names, ← DateFormat.read?_eq_some_iff, DateFormat.readIso?]
  cases DateFormat.read? format (Text.strip t) <;> simp

theorem Names.eq {m' : Date} (h : Names format t m) (h' : Names format t m') : m = m' := by
  rw [names_iff] at h h'
  exact Option.some.inj (h.symm.trans h')

/-- What is read of the text of a bound. -/
inductive Written (format t : String) : Option DateBound → Prop
  | blank : Text.isBlankText t = true → Written format t none
  | today : ¬Text.isBlankText t = true → word t = "today" → Written format t (some .today)
  | future : ¬Text.isBlankText t = true → word t ≠ "today" → word t = "future" →
      Written format t (some .future)
  | date {m : Date} : ¬Text.isBlankText t = true → word t ≠ "today" → word t ≠ "future" →
      Names format t m → Written format t (some (.date m))

theorem written_of_readBound {b : Option DateBound} (h : Field.readBound format (some t) = .ok b) :
    Written format t b := by
  rw [Field.readBound] at h
  split at h
  · rename_i hblank
    obtain rfl := Except.ok.inj h
    exact .blank hblank
  · rename_i hblank
    have hword : Text.lowerAscii (Text.strip t) = word t := rfl
    simp only [ofText, hword] at h
    split at h
    · rename_i htoday
      obtain rfl := Except.ok.inj h
      exact .today hblank htoday
    · rename_i htoday
      split at h
      · rename_i hfuture
        obtain rfl := Except.ok.inj h
        exact .future hblank htoday hfuture
      · rename_i hfuture
        split at h
        · rename_i m hm
          obtain rfl := Except.ok.inj h
          exact .date hblank htoday hfuture (names_iff.2 hm)
        · cases h

/-- What a text allows as a lower bound is what the bound that is read of it allows. -/
theorem Written.allowsFrom_iff {b : Option DateBound} (h : Written format t b)
    (htoday : today ≠ Date.last) :
    AllowsFrom format t today d ↔
      ∀ bound e, b = some bound → bound.lower? today = some e → d.lt e = false := by
  rw [AllowsFrom]
  cases h with
  | blank hblank =>
      rw [if_pos hblank]
      exact iff_of_true trivial fun bound e hbound => nomatch hbound
  | today hblank hword =>
      rw [if_neg hblank, if_pos hword]
      constructor
      · rintro h _ _ ⟨⟩ ⟨⟩
        exact h
      · intro h
        exact h _ _ rfl rfl
  | future hblank hword hfuture =>
      obtain ⟨next, hnext, hspec⟩ := Date.next?_spec htoday
      rw [if_neg hblank, if_neg hword, if_pos hfuture, ← hspec d]
      constructor
      · rintro h _ e ⟨⟩ he
        obtain rfl := Option.some.inj (hnext.symm.trans he)
        exact h
      · intro h
        exact h _ _ rfl hnext
  | date hblank hword hfuture hnames =>
      rw [if_neg hblank, if_neg hword, if_neg hfuture]
      constructor
      · rintro ⟨m, hm, h⟩ _ _ ⟨⟩ ⟨⟩
        exact hnames.eq hm ▸ h
      · intro h
        exact ⟨_, hnames, h _ _ rfl rfl⟩

theorem Written.allowsUpTo_iff {b : Option DateBound} (h : Written format t b) :
    AllowsUpTo format t today d ↔
      ∀ bound l, b = some bound → bound.upper? today = some l → l.lt d = false := by
  rw [AllowsUpTo]
  cases h with
  | blank hblank =>
      rw [if_pos hblank]
      exact iff_of_true trivial fun bound l hbound => nomatch hbound
  | today hblank hword =>
      rw [if_neg hblank, if_pos hword]
      constructor
      · rintro h _ _ ⟨⟩ ⟨⟩
        exact h
      · intro h
        exact h _ _ rfl rfl
  | future hblank hword hfuture =>
      rw [if_neg hblank, if_neg hword, if_pos hfuture]
      refine iff_of_true trivial ?_
      rintro _ l ⟨⟩ hl
      cases hl
  | date hblank hword hfuture hnames =>
      rw [if_neg hblank, if_neg hword, if_neg hfuture]
      constructor
      · rintro ⟨m, hm, h⟩ _ _ ⟨⟩ ⟨⟩
        exact hnames.eq hm ▸ h
      · intro h
        exact ⟨_, hnames, h _ _ rfl rfl⟩

/-! ## Days that go by -/

variable {later : Date}

/-- What a lower bound allows on a day it allows on every day before. -/
theorem AllowsFrom.on_earlier (h : AllowsFrom format t later d) (hlater : later.lt today = false) :
    AllowsFrom format t today d := by
  by_cases hblank : Text.isBlankText t = true
  · rw [AllowsFrom, if_pos hblank]
    trivial
  by_cases hword : word t = "today"
  · rw [AllowsFrom, if_neg hblank, if_pos hword] at h ⊢
    exact Date.not_lt_trans hlater h
  by_cases hfuture : word t = "future"
  · rw [AllowsFrom, if_neg hblank, if_neg hword, if_pos hfuture] at h ⊢
    exact Date.lt_of_lt_of_not_lt hlater h
  · rwa [AllowsFrom, if_neg hblank, if_neg hword, if_neg hfuture] at h ⊢

/-- A date as a lower bound is the same on every day. -/
theorem allowsFrom_congr (hword : word t ≠ "today") (hfuture : word t ≠ "future") :
    AllowsFrom format t today d ↔ AllowsFrom format t later d := by
  rw [AllowsFrom, AllowsFrom, if_neg hword, if_neg hword, if_neg hfuture, if_neg hfuture]

/-- What an upper bound allows on a day it allows on every day after. -/
theorem AllowsUpTo.on_later (h : AllowsUpTo format t today d) (hlater : later.lt today = false) :
    AllowsUpTo format t later d := by
  by_cases hblank : Text.isBlankText t = true
  · rw [AllowsUpTo, if_pos hblank]
    trivial
  by_cases hword : word t = "today"
  · rw [AllowsUpTo, if_neg hblank, if_pos hword] at h ⊢
    exact Date.not_lt_trans h hlater
  · rwa [AllowsUpTo, if_neg hword] at h ⊢

/-- Only `today` moves as an upper bound. -/
theorem allowsUpTo_congr (hword : word t ≠ "today") :
    AllowsUpTo format t today d ↔ AllowsUpTo format t later d := by
  rw [AllowsUpTo, AllowsUpTo, if_neg hword, if_neg hword]

end DateBound

/-- The dates that the bounds of a configuration allow on a day. -/
structure FieldConfig.AllowsDate (c : FieldConfig) (today d : Date) : Prop where
  earliest : ∀ t, c.minDate = some t →
    DateBound.AllowsFrom (DateFormat.effective c.format) t today d
  latest : ∀ t, c.maxDate = some t → DateBound.AllowsUpTo (DateFormat.effective c.format) t today d

namespace Field

variable {name : String} {c : FieldConfig} {f : Field} {today d : Date} {s : String}

theorem IsMadeFrom.inDates_iff (h : f.IsMadeFrom name c) (htoday : today ≠ Date.last) :
    f.InDates today d ↔ c.AllowsDate today d := by
  have hmin := h.minDate
  have hmax := h.maxDate
  rw [h.dateFormat] at hmin hmax
  constructor
  · rintro ⟨hearliest, hlatest⟩
    refine ⟨fun t ht => ?_, fun t ht => ?_⟩
    · rw [ht] at hmin
      exact ((DateBound.written_of_readBound hmin).allowsFrom_iff htoday).2 hearliest
    · rw [ht] at hmax
      exact (DateBound.written_of_readBound hmax).allowsUpTo_iff.2 hlatest
  · rintro ⟨hearliest, hlatest⟩
    constructor
    · cases ht : c.minDate with
      | none =>
          rw [ht] at hmin
          obtain hnone : none = f.minDate := Except.ok.inj hmin
          rw [← hnone]
          exact fun b e hb => nomatch hb
      | some t =>
          rw [ht] at hmin
          exact ((DateBound.written_of_readBound hmin).allowsFrom_iff htoday).1 (hearliest t ht)
    · cases ht : c.maxDate with
      | none =>
          rw [ht] at hmax
          obtain hnone : none = f.maxDate := Except.ok.inj hmax
          rw [← hnone]
          exact fun b e hb => nomatch hb
      | some t =>
          rw [ht] at hmax
          exact (DateBound.written_of_readBound hmax).allowsUpTo_iff.1 (hlatest t ht)

/-- A date field accepts the texts of the dates that the bounds of its configuration allow. -/
theorem check_date_iff (hf : ofConfig name c = .ok f) (htype : c.fieldType = .date)
    (htoday : today ≠ Date.last) :
    f.check today (.string s) = .ok () ↔
      ∃ d, DateFormat.Shows (DateFormat.effective c.format) s d ∧ c.AllowsDate today d := by
  have hmade := isMadeFrom_of_ofConfig hf
  have hdate : f.fieldType = .date := hmade.fieldType.trans htype
  have hkind : f.HasKind (.string s) := by
    simp only [HasKind, hdate]
    exact ⟨s, rfl⟩
  have hmeets : f.Meets today (.string s) ↔
      ∃ d, DateFormat.read? f.dateFormat s = some d ∧ f.InDates today d := by
    simp only [Meets, hdate]
  rw [check_eq_ok_iff hkind, hmeets]
  simp only [DateFormat.read?_eq_some_iff, hmade.inDates_iff htoday, hmade.dateFormat]

/--
On every day but the last of the calendar, a date field accepts a text exactly if it is the one
written for a date in the format of the field and the bounds of the configuration allow this date.
If the upper bound is not `today`, what is accepted on a day is so on every earlier one, and if the
lower bound is a date, on every later one.
-/
theorem check_date_bounds (hf : ofConfig name c = .ok f) (htype : c.fieldType = .date)
    (htoday : today ≠ Date.last) :
    (f.check today (.string s) = .ok () ↔
      ∃ d, DateFormat.Shows (DateFormat.effective c.format) s d ∧ c.AllowsDate today d) ∧
    ((∀ t, c.maxDate = some t → DateBound.word t ≠ "today") →
      ∀ earlier : Date, today.lt earlier = false →
      f.check today (.string s) = .ok () → f.check earlier (.string s) = .ok ()) ∧
    ((∀ t, c.minDate = some t → DateBound.word t ≠ "today" ∧ DateBound.word t ≠ "future") →
      ∀ later : Date, later ≠ Date.last → later.lt today = false →
        f.check today (.string s) = .ok () → f.check later (.string s) = .ok ()) := by
  refine ⟨check_date_iff hf htype htoday, fun hmax earlier hearlier haccepted => ?_,
    fun hmin later hlast hlater haccepted => ?_⟩
  · obtain ⟨d, hshows, hallowed⟩ := (check_date_iff hf htype htoday).1 haccepted
    refine (check_date_iff hf htype (Date.ne_last_of_not_lt htoday hearlier)).2 ⟨d, hshows, ?_, ?_⟩
    · exact fun t ht => (hallowed.earliest t ht).on_earlier hearlier
    · exact fun t ht => (DateBound.allowsUpTo_congr (hmax t ht)).1 (hallowed.latest t ht)
  · obtain ⟨d, hshows, hallowed⟩ := (check_date_iff hf htype htoday).1 haccepted
    refine (check_date_iff hf htype hlast).2 ⟨d, hshows, ?_, ?_⟩
    · exact fun t ht => (DateBound.allowsFrom_congr (hmin t ht).1 (hmin t ht).2).1
        (hallowed.earliest t ht)
    · exact fun t ht => (hallowed.latest t ht).on_later hlater

/-- From today on, and up to a date that is not in the format of the field. -/
def openConfig : FieldConfig where
  fieldType := .date
  format := some "%d/%m/%Y"
  minDate := some " Today"
  maxDate := some "2006-12-31"

theorem check_date_bounds_open :
    ∃ f, ofConfig "due" openConfig = .ok f ∧ openConfig.fieldType = .date ∧
    DateFormat.january ≠ Date.last ∧
      f.check DateFormat.january (.string "02/01/2006") = .ok () ∧
      (∃ d, DateFormat.Shows (DateFormat.effective openConfig.format) "02/01/2006" d ∧
        openConfig.AllowsDate DateFormat.january d) ∧
      ∀ earlier : Date, DateFormat.january.lt earlier = false →
        f.check earlier (.string "02/01/2006") = .ok () := by
  have hpass : ∃ f, ofConfig "due" openConfig = .ok f ∧
      f.check DateFormat.january (.string "02/01/2006") = .ok () := ⟨_, rfl, rfl⟩
  obtain ⟨f, hf, haccepted⟩ := hpass
  have hlast : DateFormat.january ≠ Date.last := by decide
  obtain ⟨hiff, hearlier, -⟩ := check_date_bounds (s := "02/01/2006") hf rfl hlast
  have hfixed : ∀ t, openConfig.maxDate = some t → DateBound.word t ≠ "today" := by
    rintro _ ⟨⟩
    decide
  exact ⟨f, hf, rfl, hlast, haccepted, hiff.1 haccepted,
    fun earlier hle => hearlier hfixed earlier hle haccepted⟩

end Field
end WorkItems
