import WorkItems.Audit.Complaint
import WorkItems.Proofs.Calendar.Alternates
import WorkItems.Proofs.Numbering
import WorkItems.Proofs.Repair.Reported
/-!
# The date of creation

A date of creation is right in one form only, the one in which the standard format writes the date:
reading by that format and comparing with what it writes leaves every date of the calendar exactly
one text. A repair looks for the date in nine other encodings and writes it in that form. So the
date stays, whichever encoding it was found in, the complaint about it goes, and no other complaint
comes or goes. What no encoding reads is left for the audit.
-/

namespace WorkItems

open WorkItems.Numbering (isBlank_of_isDigit isDigit_of_mem_padded padded_ne_nil)

namespace DateFormat

/-- In the standard format every date has one text, and no other text is read. -/
theorem readIso?_eq_some_iff {text : String} {d : Date} :
    readIso? text = some d ↔ text = d.isoText := by
  constructor
  · intro h
    obtain ⟨e, -, hsome⟩ := Option.bind_eq_some_iff.1 h
    split at hsome
    · rename_i hwritten
      obtain rfl := Option.some.inj hsome
      rw [← write_standard, write, hwritten]
      rfl
    · cases hsome
  · rintro rfl
    exact readIso?_isoText d

theorem readAlternate?_eq_none_iff {text : String} :
    readAlternate? text = none ↔ ∀ a ∈ encodings, a.read? (Text.strip text) = none := by
  rw [readAlternate?_eq]
  exact List.findSome?_eq_none_iff

theorem isBlankText_isoText (d : Date) : Text.isBlankText d.isoText = false := by
  obtain ⟨c, hc, hblank⟩ := DatePattern.hasMark_isoText d
  rw [Text.isBlankText, List.all_eq_false]
  exact ⟨c, hc, by simp [hblank]⟩

theorem exists_yearText_eq_cons (y : Int) :
    ∃ c cs, Date.yearText y = c :: cs ∧ Text.isBlank c = false := by
  have hpadded : ∀ n, ∃ c cs, Decimal.padded 4 n = c :: cs ∧ Text.isBlank c = false := by
    intro n
    obtain ⟨c, cs, hcs⟩ := List.exists_cons_of_ne_nil (padded_ne_nil 4 n)
    have hdigit := isDigit_of_mem_padded (hcs ▸ List.mem_cons_self .. : c ∈ Decimal.padded 4 n)
    exact ⟨c, cs, hcs, isBlank_of_isDigit hdigit⟩
  rw [Date.yearText]
  split
  · exact hpadded y.toNat
  · refine ⟨_, _, rfl, ?_⟩
    split
    · decide
    · decide

/-- A date in the standard format starts with a digit or a sign, and ends with a digit. -/
theorem trimmed_isoText (d : Date) : Text.Trimmed d.isoText.toList := by
  rw [Date.isoText, String.toList_ofList]
  refine ⟨?_, ?_⟩
  · intro c hc
    obtain ⟨first, cs, hyear, hfirst⟩ := exists_yearText_eq_cons d.year
    rw [hyear] at hc
    obtain rfl := Option.some.inj hc
    exact hfirst
  · intro c hc
    have hday :
        Date.yearText d.year ++ '-' :: Decimal.padded 2 d.month ++ '-' :: Decimal.padded 2 d.day =
        (Date.yearText d.year ++ '-' :: Decimal.padded 2 d.month ++ ['-']) ++
          Decimal.padded 2 d.day := by
      rw [List.append_assoc _ ['-']]
      rfl
    rw [hday, List.getLast?_append, Option.or_eq_some_iff] at hc
    rcases hc with hlast | ⟨hnone, -⟩
    · exact isBlank_of_isDigit (isDigit_of_mem_padded (List.mem_of_getLast? hlast))
    · exact absurd (List.getLast?_eq_none_iff.1 hnone) (padded_ne_nil _ _)

end DateFormat

namespace Schema

variable {s : Schema} {today : Date} {item : Item}

/--
There is one complaint about the date of creation, if that is filled in and not in the standard
format.
-/
theorem badCreated_mem_complaints_iff {text : String} :
    .badCreated text ∈ s.complaints today item ↔ text = item.created ∧
      Text.isBlankText item.created = false ∧ DateFormat.readIso? item.created = none := by
  have hcore : .badCreated text ∉ missingCore item := by simp [missingCore]
  have hid : .badCreated text ∉ s.idComplaints item := by
    rw [idComplaints]
    split <;> simp
  have hstatus : .badCreated text ∉ s.statusComplaints item := by
    rw [statusComplaints]
    split <;> simp
  have hmissing : .badCreated text ∉ s.missingFields item := by simp [missingFields]
  have hfields : .badCreated text ∉
      item.fields.entries.filterMap fun e => s.fieldComplaint? today e.1 e.2 := by
    intro hmem
    obtain ⟨⟨name, v⟩, -, hcomplaint⟩ := List.mem_filterMap.1 hmem
    dsimp only at hcomplaint
    rw [fieldComplaint?] at hcomplaint
    split at hcomplaint
    · split at hcomplaint <;> cases hcomplaint
    · split at hcomplaint
      · cases hcomplaint
      · split at hcomplaint <;> cases hcomplaint
  simp only [complaints, List.mem_append, hcore, hid, hstatus, hmissing, hfields, false_or,
    or_false]
  rw [createdComplaints]
  split
  · rename_i hfine
    rw [Bool.or_eq_true] at hfine
    simp only [List.not_mem_nil, false_iff, not_and]
    rintro - hfilled hnone
    rcases hfine with hblank | hread
    · rw [hblank] at hfilled
      cases hfilled
    · rw [hnone] at hread
      cases hread
  · rename_i hbad
    rw [Bool.or_eq_true, not_or, Bool.not_eq_true, Option.not_isSome_iff_eq_none] at hbad
    rw [List.mem_singleton, Complaint.badCreated.injEq]
    exact (and_iff_left hbad).symm

/--
With another date of creation the other complaints are the same, unless the one or the other is
missing.
-/
theorem complaints_created (s : Schema) (today : Date)
    (hfilled : Text.isBlankText item.created = false) :
    ∃ before behind, ∀ text, Text.isBlankText text = false →
      s.complaints today { item with created := text } =
        before ++ createdComplaints { item with created := text } ++ behind := by
  refine ⟨missingCore item ++ s.idComplaints item ++ s.statusComplaints item,
    s.missingFields item ++ item.fields.entries.filterMap fun e => s.fieldComplaint? today e.1 e.2,
    ?_⟩
  intro text htext
  have hcore : missingCore { item with created := text } = missingCore item := by
    have hsame : ∀ f ∈ CoreField.all, Text.isBlankText (Item.core { item with created := text } f) =
        Text.isBlankText (item.core f) := by
      intro f _
      cases f with
      | created => exact htext.trans hfilled.symm
      | _ => rfl
    rw [missingCore, missingCore, List.filter_congr hsame]
  rw [complaints, hcore, List.append_assoc _ (s.missingFields _)]
  rfl

/--
A date of creation that no longer has to be complained about takes that complaint away, and no
other.
-/
theorem complaints_restated (s : Schema) (today d : Date)
    (hfilled : Text.isBlankText item.created = false)
    (hunread : DateFormat.readIso? item.created = none) :
    ∃ before behind, s.complaints today item = before ++ .badCreated item.created :: behind ∧
      s.complaints today { item with created := d.isoText } = before ++ behind := by
  obtain ⟨before, behind, hcomplaints⟩ := complaints_created s today hfilled
  have hbefore : s.complaints today item = before ++ createdComplaints item ++ behind :=
    hcomplaints item.created hfilled
  have hafter := hcomplaints d.isoText (DateFormat.isBlankText_isoText d)
  have hold : createdComplaints item = [.badCreated item.created] := by
    rw [createdComplaints, hfilled, hunread]
    rfl
  have hgone : createdComplaints { item with created := d.isoText } = [] := by
    rw [createdComplaints, DateFormat.readIso?_isoText, Option.isSome_some, Bool.or_true]
    rfl
  rw [hold, List.append_assoc] at hbefore
  rw [hgone, List.append_nil] at hafter
  exact ⟨before, behind, hbefore, hafter⟩

end Schema

namespace Repair

variable {item : Item} {created new : String}

/--
The date of creation is restated as the date that an encoding reads, where the standard format reads
none.
-/
theorem newCreated?_eq_some_iff : newCreated? created = some new ↔
    Text.isBlankText created = false ∧ DateFormat.readIso? created = none ∧
      ∃ d, DateFormat.readAlternate? created = some d ∧ new = d.isoText := by
  rw [newCreated?]
  split
  · rename_i hfine
    rw [Bool.or_eq_true] at hfine
    simp only [reduceCtorEq, false_iff, not_and]
    intro hfilled hnone
    rcases hfine with hblank | hread
    · rw [hblank] at hfilled
      cases hfilled
    · rw [hnone] at hread
      cases hread
  · rename_i hbad
    rw [Bool.or_eq_true, not_or, Bool.not_eq_true, Option.not_isSome_iff_eq_none] at hbad
    rw [and_iff_right hbad.1, and_iff_right hbad.2, Option.map_eq_some_iff]
    simp only [eq_comm]

/-- Where it is not restated there is nothing to restate, or nothing to restate it from. -/
theorem newCreated?_eq_none_iff : newCreated? created = none ↔
    Text.isBlankText created = true ∨ (∃ d, DateFormat.readIso? created = some d) ∨
      DateFormat.readAlternate? created = none := by
  rw [newCreated?]
  split
  · rename_i hfine
    rw [Bool.or_eq_true, Option.isSome_iff_exists] at hfine
    exact iff_of_true rfl (hfine.imp_right .inl)
  · rename_i hbad
    rw [Bool.or_eq_true, not_or, Option.isSome_iff_exists] at hbad
    rw [Option.map_eq_none_iff, or_iff_right hbad.1, or_iff_right hbad.2]

/--
Every date of the calendar is restated from some text: with a blank before it, it is not in the
standard format.
-/
theorem newCreated?_space (d : Date) : newCreated? (" " ++ d.isoText) = some d.isoText := by
  have hstrip : Text.strip (" " ++ d.isoText) = d.isoText := by
    have hchars : (" " ++ d.isoText).toList = [' '] ++ d.isoText.toList ++ [] := by
      rw [String.toList_append, List.append_nil]
      rfl
    rw [Text.strip, hchars, Text.trim_append (by decide) (List.forall_mem_nil _),
      Text.trim_eq_self (DateFormat.trimmed_isoText d), String.ofList_toList]
  refine newCreated?_eq_some_iff.2 ⟨?_, ?_, d, ?_, rfl⟩
  · rw [← Text.isBlankText_strip, hstrip]
    exact DateFormat.isBlankText_isoText d
  · refine Option.eq_none_iff_forall_ne_some.2 ?_
    intro e he
    have htrimmed := DateFormat.trimmed_isoText e
    rw [← DateFormat.readIso?_eq_some_iff.1 he] at htrimmed
    exact absurd (htrimmed.head ' ' (by rw [String.toList_append]; rfl)) (by decide)
  · have hread : DatePattern.parse? DateFormat.standard d.isoText = some d :=
      DateFormat.parse?_of_read? (DateFormat.readIso?_isoText d)
    rw [DateFormat.readAlternate?, hstrip]
    show Option.or (List.findSome? _ (DateFormat.standard :: _)) _ = _
    rw [List.findSome?_cons, hread]
    rfl

/--
If the date of creation is restated, the new text is in the standard format and shows the date that
was read from the old one. The complaint about the date of creation is gone then, and every other
complaint is as it was. If it is not restated, the item is as it was, and its date of creation is
missing, in the standard format, or in none of the encodings. A second attempt finds nothing to do.
Every date can come up in this way.
-/
theorem fixCreated_keeps_date (s : Schema) (today : Date) (item : Item) :
    (∀ change, (fixCreated item).2 = some change → ∃ d,
      DateFormat.readAlternate? item.created = some d ∧
      (fixCreated item).1 = { item with created := d.isoText } ∧
      DateFormat.readIso? (fixCreated item).1.created = some d ∧
      change = .fixed "created" item.created d.isoText ∧
      (∃ before behind, s.complaints today item = before ++ .badCreated item.created :: behind ∧
        s.complaints today (fixCreated item).1 = before ++ behind) ∧
      ∀ text, .badCreated text ∉ s.complaints today (fixCreated item).1) ∧
    ((fixCreated item).2 = none → (fixCreated item).1 = item ∧
      (Text.isBlankText item.created = true ∨
        (∃ d, DateFormat.readIso? item.created = some d ∧ item.created = d.isoText) ∨
        ∀ a ∈ DateFormat.encodings, a.read? (Text.strip item.created) = none)) ∧
    fixCreated (fixCreated item).1 = ((fixCreated item).1, none) ∧
    ∀ d : Date, ∃ text, fixCreated { item with created := text } =
      ({ item with created := d.isoText }, some (.fixed "created" text d.isoText)) := by
  refine ⟨?_, ?_, ?_, ?_⟩
  · intro change hchange
    rw [fixCreated] at hchange ⊢
    cases hnew : newCreated? item.created with
    | none =>
        rw [hnew] at hchange
        cases hchange
    | some new =>
        rw [hnew] at hchange
        obtain rfl := Option.some.inj hchange
        obtain ⟨hfilled, hunread, d, hd, rfl⟩ := newCreated?_eq_some_iff.1 hnew
        refine ⟨d, hd, rfl, DateFormat.readIso?_isoText d, rfl,
          Schema.complaints_restated s today d hfilled hunread, ?_⟩
        intro text hmem
        obtain ⟨-, -, hnone⟩ := Schema.badCreated_mem_complaints_iff.1 hmem
        rw [DateFormat.readIso?_isoText] at hnone
        cases hnone
  · intro hnone
    refine ⟨fixCreated_eq_self hnone, ?_⟩
    have hkept : newCreated? item.created = none := by
      rw [fixCreated] at hnone
      split at hnone
      · cases hnone
      · assumption
    rcases newCreated?_eq_none_iff.1 hkept with hblank | ⟨d, hd⟩ | hunread
    · exact .inl hblank
    · exact .inr (.inl ⟨d, hd, DateFormat.readIso?_eq_some_iff.1 hd⟩)
    · exact .inr (.inr (DateFormat.readAlternate?_eq_none_iff.1 hunread))
  · exact fixCreated_fixCreated item
  · intro d
    refine ⟨" " ++ d.isoText, ?_⟩
    rw [fixCreated, newCreated?_space]

end Repair
end WorkItems
