import WorkItems.Proofs.FrontMatter.Items
import WorkItems.Proofs.Yaml.NumberTexts
/-!
# Documents that are read back

An item over ordinary text is written so that it reads back as it was, with one exception: a text
without quotes that is an integer beyond 64 bits but within 128. The five fields are written without
quotes whenever their characters allow it, because they are read as texts; but the block is read as
data first, and such an integer is no data.
-/

namespace WorkItems

namespace FrontMatter

open Yaml

/-! ## Texts that are carried over -/

/-- A text inside of a configurable field that is written and read again. -/
structure IsCarried (s : String) : Prop where
  noSeparator : NoSeparator s.toList
  noNoncharacter : ¬HasNoncharacter s

/--
A text that is one of the five fields, is written and read again. Control characters need quotes.
-/
structure IsCarriedCore (s : String) : Prop where
  noSeparator : NoSeparator s.toList
  noNoncharacter : ¬HasNoncharacter s
  noControl : needsQuotes s = false → ∀ c ∈ s.toList, Text.isControl c = false

/-- A number that both layouts write so that it is read again. -/
def IsCarriedNumber (n : Number) : Prop :=
  NumberReads (numberText n) n ∧ NumberReads (Yaml.numberText n) n

/-- What values that are carried over are made of. -/
def carriedParts : Value.Condition where
  text := IsCarried
  key s := IsCarried s ∧ (fieldText s).length ≤ 1024
  number := IsCarriedNumber

section Carried

variable {s : String}

theorem IsCarried.isWritten (h : IsCarried s) : IsWritten s :=
  written_fieldText h.noSeparator

theorem IsCarried.isAllowedText (h : IsCarried s) : IsAllowedText (fieldText s) :=
  isAllowedText_fieldText.2 h.noNoncharacter

theorem IsCarriedCore.isCoreText (h : IsCarriedCore s) : IsCoreText s :=
  ⟨h.noSeparator, fun hquotes hmem => absurd (h.noControl hquotes _ hmem) (by decide)⟩

theorem IsCarriedCore.isAllowedText (h : IsCarriedCore s) : IsAllowedText (coreText s) := by
  rw [coreText]
  split
  · exact isAllowedText_doubleQuoted h.noNoncharacter
  · rename_i hquotes
    simp only [Bool.or_eq_true, not_or, Bool.not_eq_true] at hquotes
    intro c hc
    have hnone := h.noNoncharacter
    rw [HasNoncharacter, not_or] at hnone
    exact isAllowed_of_not_isControl (h.noControl hquotes.1 c hc) (fun he => hnone.1 (he ▸ hc))
      fun he => hnone.2 (he ▸ hc)

theorem fulfils_of_carried {v : Value} (h : v.Fulfils carriedParts) :
    v.Fulfils (conditionOf v) ∧ v.Fulfils (holdsOfParts (isAllowed · = true)) := by
  have hline : v.Fulfils onOneLine := by
    refine h.imp (fun _ hs => ?_) (fun _ hs => ?_) fun _ hn => ?_
    · exact IsCarried.isWritten hs
    · exact ⟨hs.1.isWritten, hs.2⟩
    · exact hn.1
  have hblock : v.Fulfils inBlockStyle := by
    refine h.imp (fun _ hs => ?_) (fun _ hs => ?_) fun _ hn => ?_
    · exact IsCarried.noSeparator hs
    · exact hs.1.noSeparator
    · exact hn.2
  have hallowed : v.Fulfils (holdsOfParts (isAllowed · = true)) := by
    refine h.imp (fun _ hs => ?_) (fun _ hs => ?_) fun _ hn c hc => ?_
    · exact IsCarried.isAllowedText hs
    · exact hs.1.isAllowedText
    · exact isAllowed_of_isPrintable (hn.1.printable c hc)
  refine ⟨?_, hallowed⟩
  unfold conditionOf
  split
  · exact hblock
  · exact hline

end Carried

/-- An item of texts that are carried over, with its mappings in order and not nested too deeply. -/
structure Carried (item : Item) : Prop where
  core : ∀ field, IsCarriedCore (item.core field)
  noCoreName : ∀ e ∈ item.fields.entries, isCoreName e.1 = false
  parts : Value.FulfilsEntries carriedParts item.fields.entries
  ordered : Value.OrderedEntries item.fields.entries
  nesting : Value.nestingEntries item.fields.entries < nestingLimit

theorem Carried.readable {item : Item} (h : Carried item) : Readable item := by
  have hparts := Value.fulfilsEntries_iff.1 h.parts
  have hprints : ∀ e ∈ item.fields.entries, Prints e.1 e.2 := fun e he =>
    { written := (hparts e he).1.1.isWritten
      length := (hparts e he).1.2
      parts := (fulfils_of_carried (hparts e he).2).1
      ordered := Value.orderedEntries_iff.1 h.ordered e he }
  have hallowed : ∀ e ∈ item.fields.entries,
      IsAllowedText (fieldText e.1) ∧ IsAllowedValue e.2 := by
    intro e he
    refine ⟨(hparts e he).1.1.isAllowedText, ?_⟩
    unfold IsAllowedValue
    split
    · trivial
    · exact (fulfils_of_carried (hparts e he).2).2
  exact {
    core := fun field => (h.core field).isCoreText
    fields := hprints
    noCoreName := h.noCoreName
    nesting := h.nesting
    allowed := (isAllowedText_block hprints).2
      ⟨fun field => (h.core field).isAllowedText, hallowed⟩ }

/-! ## Ordinary items -/

/-- A text without separators, byte order marks and noncharacters. -/
def IsOrdinary (s : String) : Prop :=
  ∀ c ∈ s.toList, c ∉ ['\u2028', '\u2029', '\ufeff', '\ufffe', '\uffff']

instance (s : String) : Decidable (IsOrdinary s) :=
  inferInstanceAs (Decidable (∀ c ∈ s.toList, _))

/-- An integer as it is read: unsigned only if it has to be. -/
def IsInteger : Number → Prop
  | .int _ => True
  | .uint u => Int64.maxValue.toInt < u.toNat
  | .float _ => False

/-- What ordinary values are made of. -/
def ordinaryParts : Value.Condition where
  text := IsOrdinary
  key s := IsOrdinary s ∧ (fieldText s).length ≤ 1000
  number := IsInteger

/-- An item over ordinary text, of integers and of limited depth. -/
structure Ordinary (item : Item) : Prop where
  core : ∀ field, IsOrdinary (item.core field)
  noControl : ∀ field, ∀ c ∈ (item.core field).toList, Text.isControl c = true →
    c = '\t' ∨ c = '\n' ∨ c = '\r'
  noCoreName : ∀ e ∈ item.fields.entries, isCoreName e.1 = false
  parts : Value.FulfilsEntries ordinaryParts item.fields.entries
  ordered : Value.OrderedEntries item.fields.entries
  nesting : Value.nestingEntries item.fields.entries < 100

/-! ## Integers -/

theorem numberReads_signed {i : Int} {n : Number} (h : resolve (Decimal.signed i) = .number n) :
    NumberReads (Decimal.intText i) n := by
  have htext : (Decimal.intText i).toList = Decimal.signed i := String.toList_ofList
  exact {
    scalar := htext ▸ isPlainScalar_signed i true
    printable := htext ▸ fun c hc => (isNumeral_signed i c hc).printable
    resolves := htext ▸ h }

/-- Both layouts write integers in the same way. -/
theorem numberReads_of_isInteger {n : Number} (h : IsInteger n) :
    NumberReads (numberText n) n ∧ NumberReads (Yaml.numberText n) n := by
  have hreads : ∃ i : Int, numberText n = Decimal.intText i ∧
      Yaml.numberText n = Decimal.intText i ∧ resolve (Decimal.signed i) = .number n := by
    cases n with
    | int i => exact ⟨i.toInt, rfl, rfl, resolve_int i⟩
    | uint u =>
        have hresolve := resolve_uint h
        have hnat := Decimal.natText_eq u.toNat
        refine ⟨u.toNat, hnat, hnat, ?_⟩
        rwa [Decimal.signed, if_neg (by omega), Int.natAbs_natCast]
    | float x => exact absurd h id
  obtain ⟨i, htext, htext', hresolve⟩ := hreads
  rw [htext, htext']
  exact ⟨numberReads_signed hresolve, numberReads_signed hresolve⟩

/-! ## Ordinary items are carried over -/

section Ordinary

variable {s : String}

theorem IsOrdinary.noSeparator (h : IsOrdinary s) : NoSeparator s.toList := by
  intro c hc
  have hmem := h c hc
  simp only [List.mem_cons, not_or] at hmem
  exact ⟨hmem.1, hmem.2.1⟩

theorem IsOrdinary.noNoncharacter (h : IsOrdinary s) : ¬HasNoncharacter s := by
  rintro (hmem | hmem)
  · exact h _ hmem (by decide)
  · exact h _ hmem (by decide)

theorem IsOrdinary.isCarried (h : IsOrdinary s) : IsCarried s where
  noSeparator := h.noSeparator
  noNoncharacter := h.noNoncharacter

/-- Control characters that need no quotes are not among these. -/
theorem not_isControl_of_unquoted (hquotes : needsQuotes s = false)
    (h : ∀ c ∈ s.toList, Text.isControl c = true → c = '\t' ∨ c = '\n' ∨ c = '\r') :
    ∀ c ∈ s.toList, Text.isControl c = false := by
  intro c hc
  have htame := (unquoted_iff.2 hquotes).tame c hc
  cases hcontrol : Text.isControl c with
  | false => rfl
  | true =>
      rcases h c hc hcontrol with rfl | rfl | rfl
      · exact absurd (by decide) htame
      · exact absurd (by decide) htame
      · exact absurd (by decide) htame

theorem Ordinary.carried {item : Item} (h : Ordinary item) : Carried item where
  core field :=
    { noSeparator := (h.core field).noSeparator
      noNoncharacter := (h.core field).noNoncharacter
      noControl := fun hquotes => not_isControl_of_unquoted hquotes (h.noControl field) }
  noCoreName := h.noCoreName
  parts := by
    refine h.parts.imp (fun _ hs => ?_) (fun _ hs => ?_) fun _ hn => ?_
    · exact IsOrdinary.isCarried hs
    · exact ⟨hs.1.isCarried, Nat.le_trans hs.2 (by decide)⟩
    · exact numberReads_of_isInteger hn
  ordered := h.ordered
  nesting := Nat.lt_trans h.nesting (by decide)

end Ordinary

theorem length_le_escape (cs : List Char) : cs.length ≤ (escape cs).length := by
  induction cs with
  | nil => exact Nat.le_refl _
  | cons c cs ih =>
      have hc : 1 ≤ (escapeChar c).length := by
        rw [escapeChar]
        repeat' split
        all_goals simp
      rw [escape] at ih ⊢
      rw [List.flatMap_cons, List.length_append, List.length_cons]
      omega

/-- Quotes do not make a text shorter. -/
theorem length_fieldText_le (s : String) : (fieldText s).length ≤ (doubleQuoted s).length := by
  have hescape := length_le_escape s.toList
  rw [fieldText]
  split
  · exact Nat.le_refl _
  · rw [doubleQuoted, ← String.length_toList, ← String.length_toList, String.toList_ofList]
    simp only [List.length_append, List.length_cons]
    omega

/-! ## Documents -/

theorem ofText_render {item : Item} {body : String} :
    Document.ofText (Document.render ⟨item, body⟩) =
      (readItem (block item)).map fun item => ⟨item, body⟩ := by
  simp only [Document.ofText, Document.render, split_render, bind, Except.bind]
  cases readItem (block item) <;> rfl

/--
A readable item is read back as it was, unless one of its five texts is an integer that no number
can hold: then it is not read back at all.
-/
theorem ofText_render_readable {d : Document} (h : Readable d.item) :
    (Document.ofText d.render = .ok d ↔ ¬HasOversized d.item) ∧
      (HasOversized d.item → Document.ofText d.render = .error (.malformed .wrongType)) := by
  obtain ⟨item, body⟩ := d
  have hfails : HasOversized item →
      Document.ofText (Document.render ⟨item, body⟩) = .error (.malformed .wrongType) := by
    intro hsize
    rw [ofText_render, readItem_block_oversized h hsize]
    rfl
  refine ⟨⟨fun hok hsize => ?_, fun hsize => ?_⟩, hfails⟩
  · rw [hfails hsize] at hok
    cases hok
  · rw [ofText_render, readItem_block h hsize]
    rfl

/-- A document over ordinary text is read back as it was, unless one of its five texts is an integer
that no number can hold: then it is not read back at all. -/
theorem ofText_render_ordinary {d : Document} (h : Ordinary d.item) :
    (Document.ofText d.render = .ok d ↔ ¬HasOversized d.item) ∧
      (HasOversized d.item → Document.ofText d.render = .error (.malformed .wrongType)) :=
  ofText_render_readable h.carried.readable

/-- An item with texts that look like data, in every position. -/
def sampleItem : Item where
  id := "007"
  title := "Fix: the parser"
  status := "null"
  kind := "bug"
  created := "2024-01-31"
  fields := {
    entries := [("estimate", .number (.int 3)),
      ("meta", .mapping [("a: b", .sequence [.string "true", .bool true, .null])]),
      ("tags", .sequence [.string "12", .number (.int (-12))])]
    sorted := by unfold Entries.Sorted; decide }

theorem ordinary_sampleItem : Ordinary sampleItem where
  core field := by cases field <;> decide
  noControl field := by cases field <;> decide
  noCoreName := by decide
  parts := by
    have hkey : ∀ {s : String}, IsOrdinary s → (doubleQuoted s).length ≤ 1000 →
        ordinaryParts.key s := fun hs hlength =>
      ⟨hs, Nat.le_trans (length_fieldText_le _) hlength⟩
    have htrue : IsOrdinary "true" := by decide
    have htwelve : IsOrdinary "12" := by decide
    exact ⟨hkey (by decide) (by decide), trivial, hkey (by decide) (by decide),
      ⟨hkey (by decide) (by decide), ⟨htrue, trivial, trivial, trivial⟩, trivial⟩,
      hkey (by decide) (by decide), ⟨htwelve, trivial, trivial⟩, trivial⟩
  ordered :=
    ⟨trivial, ⟨List.pairwise_singleton .., ⟨trivial, trivial, trivial, trivial⟩, trivial⟩,
      ⟨trivial, trivial, trivial⟩, trivial⟩
  nesting := by decide

theorem not_hasOversized_sampleItem : ¬HasOversized sampleItem := by
  rintro ⟨field, -, hresolve⟩
  cases field <;> cases hresolve

theorem ofText_render_sampleItem :
    Document.ofText (Document.render ⟨sampleItem, "---\n"⟩) = .ok ⟨sampleItem, "---\n"⟩ :=
  (ofText_render_ordinary ordinary_sampleItem).1.2 not_hasOversized_sampleItem

/-- An item with an integer that no number can hold as its title. -/
def oversizedItem : Item := { Item.empty with title := "12345678901234567890123" }

theorem ordinary_oversizedItem : Ordinary oversizedItem where
  core field := by cases field <;> decide
  noControl field := by cases field <;> decide
  noCoreName := by decide
  parts := trivial
  ordered := trivial
  nesting := by decide

theorem isOversized_oversizedItem : IsOversized (oversizedItem.core .title) :=
  ⟨by decide, by rfl⟩

theorem ofText_render_oversizedItem :
    Ordinary oversizedItem ∧
      Document.ofText (Document.render ⟨oversizedItem, ""⟩) ≠ .ok ⟨oversizedItem, ""⟩ := by
  have hsize : HasOversized oversizedItem := ⟨.title, isOversized_oversizedItem⟩
  have hreadable := ordinary_oversizedItem.carried.readable
  refine ⟨ordinary_oversizedItem, fun hok => ?_⟩
  exact (ofText_render_readable (d := ⟨oversizedItem, ""⟩) hreadable).1.1 hok hsize

end FrontMatter
end WorkItems
