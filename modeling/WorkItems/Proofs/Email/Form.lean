import Mathlib
import WorkItems.Email
import WorkItems.Proofs.Pattern.Meaning
import WorkItems.Proofs.Text.Cuts
/-!
# The grammar of e-mail addresses

An address is told by its parts: one `@`, a local part before it and a domain behind it, whose
labels stand between dots. The pattern of addresses says so in one line, where labels are written
from their first character on, with optional groups for the rest of them (`form_fits_iff`). What it
finds is an address and every address is found (`isValid_iff`).
-/

namespace WorkItems.Email

/-! ## Parts of an address -/

/-- The characters of a local part: letters, digits and five signs. -/
def IsLocalChar (c : Char) : Prop := c.isAlphanum = true ∨ c ∈ ['.', '_', '%', '+', '-']

/-- The characters of a label: letters, digits and hyphens. -/
def IsLabelChar (c : Char) : Prop := c.isAlphanum = true ∨ c = '-'

/-- A label of a domain, which has no hyphen at either end. -/
structure IsLabel (label : List Char) : Prop where
  ne_nil : label ≠ []
  chars : ∀ c ∈ label, IsLabelChar c
  head : label.head? ≠ some '-'
  last : label.getLast? ≠ some '-'

/-- The last label of a domain: at least two letters. -/
structure IsTopLabel (label : List Char) : Prop where
  length : 2 ≤ label.length
  letters : ∀ c ∈ label, c.isAlpha = true

/-- At least two labels with dots between them, of which the last is a top label. -/
def IsDomain (domain : List Char) : Prop :=
  ∃ labels top, Text.pieces '.' domain = labels ++ [top] ∧ labels ≠ [] ∧ (∀ l ∈ labels, IsLabel l) ∧
    IsTopLabel top

/-- A local part and a domain around the only `@` of a text. -/
def IsAddress (cs : List Char) : Prop :=
  ∃ localPart domain, cs = localPart ++ '@' :: domain ∧ '@' ∉ localPart ∧ '@' ∉ domain ∧
    localPart ≠ [] ∧ (∀ c ∈ localPart, IsLocalChar c) ∧ IsDomain domain

/-! ## Sets of characters -/

variable {c : Char}

theorem isAlpha_iff :
    c.isAlpha = true ↔ (65 ≤ c.toNat ∧ c.toNat ≤ 90) ∨ (97 ≤ c.toNat ∧ c.toNat ≤ 122) := by
  simp only [Char.isAlpha, Char.isUpper, Char.isLower, Bool.or_eq_true, Bool.and_eq_true,
    decide_eq_true_eq, UInt32.le_iff_toNat_le, ge_iff_le]
  exact Iff.rfl

theorem isAlphanum_iff : c.isAlphanum = true ↔
    (48 ≤ c.toNat ∧ c.toNat ≤ 57) ∨ (65 ≤ c.toNat ∧ c.toNat ≤ 90) ∨
    (97 ≤ c.toNat ∧ c.toNat ≤ 122) := by
  rw [Char.isAlphanum, Bool.or_eq_true, isAlpha_iff, or_comm]
  simp only [Char.isDigit, Bool.and_eq_true, decide_eq_true_eq, UInt32.le_iff_toNat_le, ge_iff_le]
  exact Iff.rfl

theorem contains_nil : (⟨[]⟩ : CharSet).contains c = true ↔ False :=
  iff_of_false Bool.false_ne_true id

theorem contains_cons {low high : Nat} {intervals : List (Nat × Nat)} :
    (⟨(low, high) :: intervals⟩ : CharSet).contains c = true ↔
      (low ≤ c.toNat ∧ c.toNat ≤ high) ∨ (⟨intervals⟩ : CharSet).contains c = true := by
  simp only [CharSet.contains, CharSet.has, List.any_cons, Bool.or_eq_true, Bool.and_eq_true,
    decide_eq_true_eq]

theorem letters_contains : letters.contains c = true ↔ c.isAlpha = true := by
  rw [isAlpha_iff]
  simp only [letters, contains_cons, contains_nil, or_false]

theorem alnums_contains : alnums.contains c = true ↔ c.isAlphanum = true := by
  rw [isAlphanum_iff]
  simp only [alnums, contains_cons, contains_nil, or_false]

theorem labelChars_contains : labelChars.contains c = true ↔ IsLabelChar c := by
  have hhyphen : c = '-' ↔ c.toNat = 45 := Char.toNat_inj.symm
  rw [IsLabelChar, isAlphanum_iff, hhyphen]
  simp only [labelChars, contains_cons, contains_nil, or_false]
  omega

theorem localChars_contains : localChars.contains c = true ↔ IsLocalChar c := by
  have hsign : c ∈ ['.', '_', '%', '+', '-'] ↔
      c.toNat = 46 ∨ c.toNat = 95 ∨ c.toNat = 37 ∨ c.toNat = 43 ∨ c.toNat = 45 := by
    simp only [List.mem_cons, List.not_mem_nil, or_false, ← Char.toNat_inj]
    exact Iff.rfl
  rw [IsLocalChar, isAlphanum_iff, hsign]
  simp only [localChars, contains_cons, contains_nil, or_false]
  omega

theorem singleton_contains {d : Char} : (CharSet.singleton d).contains c = true ↔ c = d := by
  rw [← Char.toNat_inj, CharSet.singleton, CharSet.interval, contains_cons, contains_nil, or_false]
  omega

/-! ## What the pattern fits -/

-- The text is read sign by sign, which nests as deep as the text is long.
set_option maxRecDepth 2000 in
/-- The pattern is what its text is read as. -/
theorem ofText_formText : Pattern.ofText formText = .ok form := by
  cbv

open Pattern (Behind)

variable {before part after : List Char}

/-- The characters behind the first one of a label. -/
def IsLabelRest (rest : List Char) : Prop :=
  rest = [] ∨ ∃ inner last, rest = inner ++ [last] ∧ (∀ c ∈ inner, IsLabelChar c) ∧
    last.isAlphanum = true

theorem fits_labelRest : labelRest.Fits before part after ↔ IsLabelRest part := by
  rw [labelRest, Pattern.fits_optional]
  refine or_congr_right ?_
  constructor
  · rintro ⟨inner, _, rfl, hinner, last, rfl, hlast⟩
    obtain ⟨-, hinner⟩ := Pattern.fits_repeated_set.1 hinner
    exact ⟨inner, last, rfl, fun c hc => labelChars_contains.1 (hinner c hc),
      alnums_contains.1 hlast⟩
  · rintro ⟨inner, last, rfl, hinner, hlast⟩
    refine ⟨inner, [last], rfl, Pattern.fits_repeated_set.2 ⟨Nat.zero_le _, fun c hc => ?_⟩, last,
      rfl, ?_⟩
    · exact labelChars_contains.2 (hinner c hc)
    · exact alnums_contains.2 hlast

/-- A character of a label that is not a hyphen is a letter or a digit. -/
theorem IsLabelChar.isAlphanum (h : IsLabelChar c) (hc : c ≠ '-') : c.isAlphanum = true :=
  h.resolve_right hc

theorem ne_hyphen_of_isAlphanum (h : c.isAlphanum = true) : c ≠ '-' := by
  rintro rfl
  cases h

theorem isLabel_cons_iff {rest : List Char} :
    IsLabel (c :: rest) ↔ c.isAlphanum = true ∧ IsLabelRest rest := by
  constructor
  · rintro ⟨-, hchars, hhead, hlast⟩
    obtain ⟨hc, hrest⟩ := List.forall_mem_cons.1 hchars
    refine ⟨hc.isAlphanum fun heq => hhead (congrArg some heq), ?_⟩
    rcases List.eq_nil_or_concat rest with rfl | ⟨inner, last, rfl⟩
    · exact .inl rfl
    · rw [List.concat_eq_append] at hrest hlast ⊢
      obtain ⟨hinner, hlastChar⟩ := List.forall_mem_append.1 hrest
      refine .inr ⟨inner, last, rfl, hinner,
        (hlastChar last (List.mem_singleton_self _)).isAlphanum ?_⟩
      rintro rfl
      exact hlast (List.getLast?_concat (l := c :: inner))
  · rintro ⟨hc, hrest⟩
    have hhead : (c :: rest).head? ≠ some '-' :=
      fun h => ne_hyphen_of_isAlphanum hc (Option.some.inj h)
    rcases hrest with rfl | ⟨inner, last, rfl, hinner, hlast⟩
    · exact ⟨List.cons_ne_nil _ _, List.forall_mem_singleton.2 (.inl hc), hhead, hhead⟩
    · refine ⟨List.cons_ne_nil _ _, ?_, hhead, ?_⟩
      · rw [List.forall_mem_cons, List.forall_mem_append, List.forall_mem_singleton]
        exact ⟨.inl hc, hinner, .inl hlast⟩
      · rw [← List.cons_append, List.getLast?_append]
        exact fun h => ne_hyphen_of_isAlphanum hlast (Option.some.inj h)

theorem fits_label :
    Behind (Pattern.Fits (.set alnums)) labelRest.Fits before part after ↔ IsLabel part := by
  constructor
  · rintro ⟨_, rest, rfl, ⟨c, rfl, hc⟩, hrest⟩
    exact isLabel_cons_iff.2 ⟨alnums_contains.1 hc, fits_labelRest.1 hrest⟩
  · intro hlabel
    obtain ⟨c, rest, rfl⟩ := List.exists_cons_of_ne_nil hlabel.ne_nil
    obtain ⟨hc, hrest⟩ := isLabel_cons_iff.1 hlabel
    exact ⟨[c], rest, rfl, ⟨c, rfl, alnums_contains.2 hc⟩, fits_labelRest.2 hrest⟩

theorem fits_furtherLabel (before part after : List Char) :
    furtherLabel.Fits before part after ↔ ∃ label, part = '.' :: label ∧ IsLabel label := by
  constructor
  · rintro ⟨_, label, rfl, ⟨c, rfl, hc⟩, hlabel⟩
    exact ⟨label, by rw [singleton_contains.1 hc]; rfl, fits_label.1 hlabel⟩
  · rintro ⟨label, rfl, hlabel⟩
    exact ⟨['.'], label, rfl, ⟨'.', rfl, singleton_contains.2 rfl⟩, fits_label.2 hlabel⟩

/-- The labels between the first and the last one, with a dot in front of each. -/
theorem fits_furtherLabels :
    Pattern.Fits (.repeated furtherLabel 0 none) before part after ↔
      ∃ labels : List (List Char), part = labels.flatMap ('.' :: ·) ∧ ∀ l ∈ labels, IsLabel l := by
  rw [Pattern.fits_repeated fits_furtherLabel]
  constructor
  · rintro ⟨parts, rfl, -, hparts⟩
    have hdots : ∀ q ∈ parts, '.' :: q.tail = q := by
      intro q hq
      obtain ⟨label, rfl, -⟩ := hparts q hq
      rfl
    refine ⟨parts.map List.tail, ?_, ?_⟩
    · rw [List.flatMap_map, List.flatMap_def, List.map_congr_left hdots, List.map_id']
    · rintro _ hl
      obtain ⟨q, hq, rfl⟩ := List.mem_map.1 hl
      obtain ⟨label, rfl, hlabel⟩ := hparts q hq
      exact hlabel
  · rintro ⟨labels, rfl, hlabels⟩
    refine ⟨labels.map ('.' :: ·), rfl, Nat.zero_le _, ?_⟩
    rintro _ hq
    obtain ⟨label, hlabel, rfl⟩ := List.mem_map.1 hq
    exact ⟨label, rfl, hlabels label hlabel⟩

/-- A text in the form of an address. -/
def IsForm (cs : List Char) : Prop :=
  ∃ (localPart label : List Char) (labels : List (List Char)) (top : List Char),
    cs = localPart ++ '@' :: (label ++ labels.flatMap ('.' :: ·) ++ '.' :: top) ∧
    localPart ≠ [] ∧ (∀ c ∈ localPart, IsLocalChar c) ∧ IsLabel label ∧ (∀ l ∈ labels, IsLabel l) ∧
    IsTopLabel top

theorem form_fits : form.Fits =
    Behind (Pattern.Fits (.look .textStart))
      (Behind (Pattern.Fits (.repeated (.set localChars) 1 none))
      (Behind (Pattern.Fits (.set (.singleton '@')))
        (Behind (Behind (Pattern.Fits (.set alnums)) labelRest.Fits)
          (Behind (Pattern.Fits (.repeated furtherLabel 0 none))
            (Behind (Pattern.Fits (.set (.singleton '.')))
              (Behind (Pattern.Fits (.repeated (.set letters) 2 none))
                (Pattern.Fits (.look .textEnd)))))))) := by
  rw [Pattern.behind_assoc]
  rfl

/-- The pattern fits whole texts only, and those that have the form of an address. -/
theorem form_fits_iff : form.Fits before part after ↔ before = [] ∧ after = [] ∧ IsForm part := by
  rw [form_fits]
  constructor
  · rintro ⟨_, _, rfl, ⟨rfl, hstart⟩, localPart, _, rfl, hlocal, _, _, rfl, ⟨a, rfl, ha⟩, label, _,
      rfl, hlabel, further, _, rfl, hfurther, _, _, rfl, ⟨d, rfl, hd⟩, top, _, rfl, htop, rfl, hend⟩
    obtain ⟨hne, hchars⟩ := Pattern.fits_repeated_set.1 hlocal
    obtain ⟨labels, rfl, hlabels⟩ := fits_furtherLabels.1 hfurther
    obtain ⟨hlength, hletters⟩ := Pattern.fits_repeated_set.1 htop
    have hbefore : before = [] := by simpa [Look.holds] using hstart
    have hafter : after = [] := by simpa [Look.holds] using hend
    refine ⟨hbefore, hafter, localPart, label, labels, top, ?_, List.ne_nil_of_length_pos hne, ?_,
      fits_label.1 hlabel, hlabels, hlength, ?_⟩
    · rw [singleton_contains.1 ha, singleton_contains.1 hd]
      simp
    · exact fun c hc => localChars_contains.1 (hchars c hc)
    · exact fun c hc => letters_contains.1 (hletters c hc)
  · rintro ⟨rfl, rfl, localPart, label, labels, top, rfl, hne, hlocal, hlabel, hlabels, htop⟩
    have hlocalFits : 1 ≤ localPart.length ∧ ∀ c ∈ localPart, localChars.contains c = true :=
      ⟨List.length_pos_iff.2 hne, fun c hc => localChars_contains.2 (hlocal c hc)⟩
    have htopFits : 2 ≤ top.length ∧ ∀ c ∈ top, letters.contains c = true :=
      ⟨htop.length, fun c hc => letters_contains.2 (htop.letters c hc)⟩
    refine ⟨[], _, rfl, ⟨rfl, rfl⟩, localPart, _, rfl, Pattern.fits_repeated_set.2 hlocalFits,
      ['@'], _, rfl, ⟨_, rfl, singleton_contains.2 rfl⟩, label,
      labels.flatMap ('.' :: ·) ++ '.' :: top, ?_, fits_label.2 hlabel, _, '.' :: top, rfl,
      fits_furtherLabels.2 ⟨labels, rfl, hlabels⟩, ['.'], top, rfl,
      ⟨_, rfl, singleton_contains.2 rfl⟩, top, [], ?_, Pattern.fits_repeated_set.2 htopFits, rfl,
      ?_⟩
    · exact List.append_assoc ..
    · exact (List.append_nil top).symm
    · rfl

/-! ## Addresses -/

theorem IsLabelChar.ne (h : IsLabelChar c) : c ≠ '.' ∧ c ≠ '@' := by
  rw [IsLabelChar, isAlphanum_iff] at h
  constructor
  · rintro rfl
    revert h
    decide
  · rintro rfl
    revert h
    decide

theorem IsLabel.not_mem {label : List Char} (h : IsLabel label) : '.' ∉ label ∧ '@' ∉ label :=
  ⟨fun hmem => (h.chars _ hmem).ne.1 rfl, fun hmem => (h.chars _ hmem).ne.2 rfl⟩

theorem IsTopLabel.not_mem {label : List Char} (h : IsTopLabel label) : '.' ∉ label ∧ '@' ∉ label :=
  ⟨fun hmem => absurd (h.letters _ hmem) (by decide),
    fun hmem => absurd (h.letters _ hmem) (by decide)⟩

/-- A domain is its labels with a dot in front of each but the first. -/
theorem isDomain_iff {domain : List Char} : IsDomain domain ↔
    ∃ (label : List Char) (labels : List (List Char)) (top : List Char),
      domain = label ++ labels.flatMap ('.' :: ·) ++ '.' :: top ∧ IsLabel label ∧
        (∀ l ∈ labels, IsLabel l) ∧ IsTopLabel top := by
  constructor
  · rintro ⟨labels, top, hpieces, hne, hlabels, htop⟩
    obtain ⟨label, labels, rfl⟩ := List.exists_cons_of_ne_nil hne
    obtain ⟨hlabel, hlabels⟩ := List.forall_mem_cons.1 hlabels
    obtain ⟨rfl, -⟩ := Text.pieces_eq_cons_iff.1 hpieces
    exact ⟨label, labels, top, by simp, hlabel, hlabels, htop⟩
  · rintro ⟨label, labels, top, rfl, hlabel, hlabels, htop⟩
    refine ⟨label :: labels, top, ?_, List.cons_ne_nil _ _,
      List.forall_mem_cons.2 ⟨hlabel, hlabels⟩, htop⟩
    have hdots : ∀ l ∈ labels ++ [top], '.' ∉ l := by
      rw [List.forall_mem_append, List.forall_mem_singleton]
      exact ⟨fun l hl => (hlabels l hl).not_mem.1, htop.not_mem.1⟩
    exact Text.pieces_eq_cons_iff.2 ⟨by simp, hlabel.not_mem.1, hdots⟩

theorem at_not_mem_of_isDomain {domain : List Char} (h : IsDomain domain) : '@' ∉ domain := by
  obtain ⟨labels, top, hpieces, -, hlabels, htop⟩ := h
  intro hmem
  rcases Text.mem_pieces_of_mem '.' hmem with hdot | ⟨p, hp, hmem⟩
  · cases hdot
  · rw [hpieces, List.mem_append, List.mem_singleton] at hp
    rcases hp with hp | rfl
    · exact (hlabels p hp).not_mem.2 hmem
    · exact htop.not_mem.2 hmem

theorem at_not_mem_of_isLocalChar {localPart : List Char} (h : ∀ c ∈ localPart, IsLocalChar c) :
    '@' ∉ localPart := by
  intro hmem
  rcases h _ hmem with halnum | hsign
  · cases halnum
  · revert hsign
    decide

theorem isForm_iff {cs : List Char} : IsForm cs ↔ IsAddress cs := by
  constructor
  · rintro ⟨localPart, label, labels, top, rfl, hne, hlocal, hdomain⟩
    have hdomain := isDomain_iff.2 ⟨label, labels, top, rfl, hdomain⟩
    exact ⟨localPart, _, rfl, at_not_mem_of_isLocalChar hlocal, at_not_mem_of_isDomain hdomain, hne,
      hlocal, hdomain⟩
  · rintro ⟨localPart, _, rfl, -, -, hne, hlocal, hdomain⟩
    obtain ⟨label, labels, top, rfl, hlabels⟩ := isDomain_iff.1 hdomain
    exact ⟨localPart, label, labels, top, rfl, hne, hlocal, hlabels⟩

/-- The pattern occurs in the addresses and in no other text. -/
theorem isValid_iff {s : String} : isValid s = true ↔ IsAddress s.toList := by
  rw [isValid, Pattern.occursIn_iff, ← isForm_iff]
  constructor
  · rintro ⟨before, part, after, htext, hfits⟩
    obtain ⟨rfl, rfl, hform⟩ := form_fits_iff.1 hfits
    rw [htext]
    simpa using hform
  · intro hform
    exact ⟨[], s.toList, [], by simp, form_fits_iff.2 ⟨rfl, rfl, hform⟩⟩

end WorkItems.Email
