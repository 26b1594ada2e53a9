import WorkItems.Proofs.Email.Form
import WorkItems.Proofs.Text.Trim
import WorkItems.Proofs.Unicode.Case
/-!
# The characters of an e-mail address

An address is written in the visible characters of ASCII. So it has no blanks that trimming could
take away. Whether a text is an address does not depend on the case of its letters.
-/

namespace WorkItems.Email

/-- A character of ASCII that is neither a blank nor a control character in front of the blank. -/
def IsVisible (c : Char) : Prop := 0x20 < c.toNat ∧ c.toNat < 0x80

variable {c : Char}

theorem IsVisible.isBlank (h : IsVisible c) : Text.isBlank c = false := by
  obtain ⟨hlow, hhigh⟩ := h
  simp only [Text.isBlank, Bool.or_eq_false_iff, Bool.and_eq_false_iff, decide_eq_false_iff_not,
    beq_eq_false_iff_ne]
  omega

theorem isVisible_of_isAlphanum (h : c.isAlphanum = true) : IsVisible c := by
  rw [isAlphanum_iff] at h
  rw [IsVisible]
  omega

theorem IsLocalChar.isVisible (h : IsLocalChar c) : IsVisible c := by
  rcases h with h | h
  · exact isVisible_of_isAlphanum h
  · have hall : ∀ c ∈ ['.', '_', '%', '+', '-'], 0x20 < c.toNat ∧ c.toNat < 0x80 := by decide
    exact hall c h

theorem IsLabelChar.isVisible (h : IsLabelChar c) : IsVisible c := by
  rcases h with h | rfl
  · exact isVisible_of_isAlphanum h
  · rw [IsVisible]
    decide

theorem IsTopLabel.isVisible {label : List Char} (h : IsTopLabel label) (hc : c ∈ label) :
    IsVisible c := by
  refine isVisible_of_isAlphanum ?_
  rw [Char.isAlphanum, h.letters c hc, Bool.true_or]

theorem IsDomain.isVisible {domain : List Char} (h : IsDomain domain) (hc : c ∈ domain) :
    IsVisible c := by
  obtain ⟨labels, top, hpieces, -, hlabels, htop⟩ := h
  rcases Text.mem_pieces_of_mem '.' hc with rfl | ⟨p, hp, hc⟩
  · rw [IsVisible]
    decide
  · rw [hpieces, List.mem_append, List.mem_singleton] at hp
    rcases hp with hp | rfl
    · exact ((hlabels p hp).chars c hc).isVisible
    · exact htop.isVisible hc

theorem IsAddress.isVisible {cs : List Char} (h : IsAddress cs) (hc : c ∈ cs) : IsVisible c := by
  obtain ⟨localPart, domain, rfl, -, -, -, hlocal, hdomain⟩ := h
  rw [List.mem_append, List.mem_cons] at hc
  rcases hc with hc | rfl | hc
  · exact (hlocal c hc).isVisible
  · rw [IsVisible]
    decide
  · exact hdomain.isVisible hc

/-- An e-mail address is written in visible characters. -/
theorem isVisible_of_isValid {s : String} (h : isValid s = true) (hc : c ∈ s.toList) :
    IsVisible c :=
  (isValid_iff.1 h).isVisible hc

/-- An e-mail address is written in ASCII. -/
theorem toNat_lt_of_isValid {s : String} (h : isValid s = true) : ∀ c ∈ s.toList, c.toNat < 0x80 :=
  fun _ hc => (isVisible_of_isValid h hc).2

/-- Trimming an e-mail address changes nothing. -/
theorem strip_of_isValid {s : String} (h : isValid s = true) : Text.strip s = s := by
  have hblank : ∀ c ∈ s.toList, Text.isBlank c = false :=
    fun _ hc => (isVisible_of_isValid h hc).isBlank
  refine Text.strip_eq_self ⟨fun c hc => hblank c ?_, fun c hc => hblank c ?_⟩
  · exact List.mem_of_mem_head? hc
  · exact List.mem_of_mem_getLast? hc

/-! ## Letter case -/

/-- The two characters are in the same places of an address. -/
structure SameKind (c d : Char) : Prop where
  letter : d.isAlpha = c.isAlpha
  alphanum : d.isAlphanum = c.isAlphanum
  sign : ∀ e ∈ ['@', '.', '_', '%', '+', '-'], d = e ↔ c = e

theorem sameKind_toLower (c : Char) : SameKind c c.toLower := by
  by_cases hcapital : c.val ≥ 'A'.val ∧ c.val ≤ 'Z'.val
  · have hletters : ∀ n < 91, 65 ≤ n → let c := Char.ofNat n
        c.toLower.isAlpha = c.isAlpha ∧ c.toLower.isAlphanum = c.isAlphanum ∧
          ∀ e ∈ ['@', '.', '_', '%', '+', '-'], c.toLower = e ↔ c = e := by decide
    have hlow : 65 ≤ c.toNat := UInt32.le_iff_toNat_le.1 hcapital.1
    have hhigh : c.toNat ≤ 90 := UInt32.le_iff_toNat_le.1 hcapital.2
    obtain ⟨hletter, halphanum, hsign⟩ :=
      Char.ofNat_toNat c ▸ hletters c.toNat (Nat.lt_succ_of_le hhigh) hlow
    exact ⟨hletter, halphanum, hsign⟩
  · have hsame : c.toLower = c := dif_neg hcapital
    rw [hsame]
    exact ⟨rfl, rfl, fun _ _ => Iff.rfl⟩

theorem isLocalChar_toLower (c : Char) : IsLocalChar c.toLower ↔ IsLocalChar c := by
  have hsign : ∀ {e}, e ∈ ['@', '.', '_', '%', '+', '-'] → (c.toLower = e ↔ c = e) :=
    fun he => (sameKind_toLower c).sign _ he
  simp only [IsLocalChar, (sameKind_toLower c).alphanum, List.mem_cons, List.not_mem_nil, or_false,
    @hsign '.' (by decide), @hsign '_' (by decide), @hsign '%' (by decide), @hsign '+' (by decide),
    @hsign '-' (by decide)]

theorem isLabelChar_toLower (c : Char) : IsLabelChar c.toLower ↔ IsLabelChar c := by
  rw [IsLabelChar, IsLabelChar, (sameKind_toLower c).alphanum,
    (sameKind_toLower c).sign '-' (by decide)]

theorem forall_mem_map_toLower {P : Char → Prop} (hP : ∀ c : Char, P c.toLower ↔ P c)
    (cs : List Char) :
    (∀ c ∈ cs.map Char.toLower, P c) ↔ ∀ c ∈ cs, P c := by
  rw [List.forall_mem_map]
  exact forall₂_congr fun c _ => hP c

theorem mem_map_toLower {cs : List Char} {e : Char} (he : e ∈ ['@', '.', '_', '%', '+', '-']) :
    e ∈ cs.map Char.toLower ↔ e ∈ cs := by
  rw [List.mem_map]
  constructor
  · rintro ⟨c, hc, heq⟩
    exact ((sameKind_toLower c).sign e he).1 heq ▸ hc
  · intro hmem
    exact ⟨e, hmem, ((sameKind_toLower e).sign e he).2 rfl⟩

theorem map_toLower_eq_some_hyphen {o : Option Char} :
    o.map Char.toLower = some '-' ↔ o = some '-' := by
  cases o with
  | none => exact Iff.rfl
  | some c => simpa using (sameKind_toLower c).sign '-' (by decide)

theorem isLabel_map_toLower {label : List Char} :
    IsLabel (label.map Char.toLower) ↔ IsLabel label := by
  have hne : label.map Char.toLower ≠ [] ↔ label ≠ [] := not_congr List.map_eq_nil_iff
  have hchars := forall_mem_map_toLower isLabelChar_toLower label
  have hhead : (label.map Char.toLower).head? ≠ some '-' ↔ label.head? ≠ some '-' := by
    rw [List.head?_map]
    exact not_congr map_toLower_eq_some_hyphen
  have hlast : (label.map Char.toLower).getLast? ≠ some '-' ↔ label.getLast? ≠ some '-' := by
    rw [List.getLast?_map]
    exact not_congr map_toLower_eq_some_hyphen
  exact ⟨fun h => ⟨hne.1 h.ne_nil, hchars.1 h.chars, hhead.1 h.head, hlast.1 h.last⟩,
    fun h => ⟨hne.2 h.ne_nil, hchars.2 h.chars, hhead.2 h.head, hlast.2 h.last⟩⟩

theorem isTopLabel_map_toLower {label : List Char} :
    IsTopLabel (label.map Char.toLower) ↔ IsTopLabel label := by
  have hletters := forall_mem_map_toLower (P := fun c => c.isAlpha = true)
    (fun c => by rw [(sameKind_toLower c).letter]) label
  exact ⟨fun h => ⟨List.length_map Char.toLower ▸ h.length, hletters.1 h.letters⟩,
    fun h => ⟨(List.length_map Char.toLower).symm ▸ h.length, hletters.2 h.letters⟩⟩

theorem isDomain_map_toLower {domain : List Char} :
    IsDomain (domain.map Char.toLower) ↔ IsDomain domain := by
  have hpieces := Text.pieces_map (fun c => (sameKind_toLower c).sign '.' (by decide)) domain
  constructor
  · rintro ⟨labels', top', h, hne, hlabels, htop⟩
    rw [hpieces] at h
    obtain ⟨labels, tops, hsplit, rfl, htops⟩ := List.map_eq_append_iff.1 h
    obtain ⟨top, rfl, rfl⟩ := List.map_eq_singleton_iff.1 htops
    refine ⟨labels, top, hsplit, ?_, fun l hl => ?_, isTopLabel_map_toLower.1 htop⟩
    · rintro rfl
      exact hne rfl
    · exact isLabel_map_toLower.1 (hlabels _ (List.mem_map_of_mem hl))
  · rintro ⟨labels, top, h, hne, hlabels, htop⟩
    refine ⟨labels.map (List.map Char.toLower), top.map Char.toLower, ?_, ?_, ?_,
      isTopLabel_map_toLower.2 htop⟩
    · rw [hpieces, h, List.map_append, List.map_singleton]
    · simpa using hne
    · exact List.forall_mem_map.2 fun l hl => isLabel_map_toLower.2 (hlabels l hl)

theorem isAddress_map_toLower {cs : List Char} :
    IsAddress (cs.map Char.toLower) ↔ IsAddress cs := by
  have hat : '@' ∈ ['@', '.', '_', '%', '+', '-'] := by decide
  constructor
  · rintro ⟨localPart', domain', h, hlocalAt, hdomainAt, hne, hlocal, hdomain⟩
    obtain ⟨localPart, rest, rfl, rfl, hrest⟩ := List.map_eq_append_iff.1 h
    obtain ⟨a, domain, rfl, ha, rfl⟩ := List.map_eq_cons_iff.1 hrest
    obtain rfl := ((sameKind_toLower a).sign '@' hat).1 ha
    refine ⟨localPart, domain, rfl, mt (mem_map_toLower hat).2 hlocalAt,
      mt (mem_map_toLower hat).2 hdomainAt, ?_,
      (forall_mem_map_toLower isLocalChar_toLower _).1 hlocal, isDomain_map_toLower.1 hdomain⟩
    rintro rfl
    exact hne rfl
  · rintro ⟨localPart, domain, rfl, hlocalAt, hdomainAt, hne, hlocal, hdomain⟩
    refine ⟨localPart.map Char.toLower, domain.map Char.toLower, ?_,
      mt (mem_map_toLower hat).1 hlocalAt, mt (mem_map_toLower hat).1 hdomainAt, by simpa using hne,
      (forall_mem_map_toLower isLocalChar_toLower _).2 hlocal, isDomain_map_toLower.2 hdomain⟩
    rw [List.map_append, List.map_cons]
    rfl

/-- Small letters make an address of an address, and of nothing else. -/
theorem isValid_lowerAscii (s : String) : isValid (Text.lowerAscii s) = isValid s := by
  rw [Bool.eq_iff_iff, isValid_iff, isValid_iff, Text.lowerAscii, String.toList_ofList]
  exact isAddress_map_toLower

/-! ## The grammar -/

/--
The texts in which the pattern of addresses occurs are the addresses. Such a text is an address in
lower case too, and it holds no blank, no line feed and nothing beyond ASCII.
-/
theorem isValid_grammar (s : String) :
    (∃ p, Pattern.ofText formText = .ok p ∧ isValid s = p.occursIn s) ∧
      (isValid s = true ↔ IsAddress s.toList) ∧
      (isValid s = true → isValid (Unicode.lowerCase s) = true ∧
        ∀ c ∈ s.toList, Text.isBlank c = false ∧ c ≠ '\n' ∧ c.toNat < 0x80) := by
  refine ⟨⟨form, ofText_formText, rfl⟩, isValid_iff, fun h => ⟨?_, fun c hc => ?_⟩⟩
  · rw [Unicode.lowerCase_eq_lowerAscii (toNat_lt_of_isValid h), isValid_lowerAscii, h]
  · have hblank := (isVisible_of_isValid h hc).isBlank
    refine ⟨hblank, ?_, toNat_lt_of_isValid h c hc⟩
    rintro rfl
    cases hblank

theorem isValid_grammar_capitals : isValid "Dev_1+Ops@Mail-2.example.COM" = true ∧
    IsAddress "Dev_1+Ops@Mail-2.example.COM".toList ∧
    isValid (Unicode.lowerCase "Dev_1+Ops@Mail-2.example.COM") = true := by
  obtain ⟨-, haddress, hlower⟩ := isValid_grammar "Dev_1+Ops@Mail-2.example.COM"
  have hvalid : isValid "Dev_1+Ops@Mail-2.example.COM" = true := by decide +kernel
  exact ⟨hvalid, haddress.1 hvalid, (hlower hvalid).1⟩

end WorkItems.Email
