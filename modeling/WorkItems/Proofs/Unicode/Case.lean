import WorkItems.Proofs.Text.Trim
import WorkItems.Unicode.Case
/-!
# What lower case leaves alone

Lower case turns no blank into something else and nothing else into a blank, so a text in lower case
is blank, or trimmed, exactly if the text itself is. Its letters of ASCII are small, and those that
are small already stay.
-/

namespace WorkItems.Unicode

open Text

/-! ## The runs of the table -/

/-- The intervals of the code points of blanks. -/
def blankIntervals : List (Nat × Nat) :=
  [(9, 13), (0x20, 0x20), (0x85, 0x85), (0xA0, 0xA0), (0x1680, 0x1680), (0x2000, 0x200A),
    (0x2028, 0x2029), (0x202F, 0x202F), (0x205F, 0x205F), (0x3000, 0x3000)]

theorem isBlank_iff {c : Char} :
    isBlank c = true ↔ ∃ i ∈ blankIntervals, i.1 ≤ c.toNat ∧ c.toNat ≤ i.2 := by
  simp only [isBlank, blankIntervals, List.mem_cons, List.not_mem_nil, or_false, exists_eq_or_imp,
    exists_eq_left, Bool.or_eq_true, Bool.and_eq_true, decide_eq_true_eq, beq_iff_eq]
  omega

/-- Whether no code point from `low` to `high` is that of a blank. -/
def avoidsBlanks (low high : Nat) : Bool := blankIntervals.all fun i => high < i.1 || i.2 < low

theorem isBlank_of_avoidsBlanks {low high : Nat} (h : avoidsBlanks low high = true) {c : Char}
    (hc : low ≤ c.toNat ∧ c.toNat ≤ high) : isBlank c = false := by
  refine Bool.eq_false_iff.2 fun hblank => ?_
  obtain ⟨i, hi, hrange⟩ := isBlank_iff.1 hblank
  have hout := List.all_eq_true.1 h i hi
  simp only [Bool.or_eq_true, decide_eq_true_eq] at hout
  omega

/-- The last image of a run. -/
def LowerRun.lastImage (r : LowerRun) : Nat := r.image + (r.last - r.first)

/--
Whether a run goes from characters that are no blanks, and of ASCII only capitals, to characters
that are no blanks and no capitals of ASCII.
-/
def LowerRun.isTame (r : LowerRun) : Bool :=
  avoidsBlanks r.first r.last && avoidsBlanks r.image r.lastImage &&
    (r.lastImage < 0xD800 || 0xE000 ≤ r.image && r.lastImage < 0x110000) && 0x5A < r.image &&
    (0x41 ≤ r.first && r.last ≤ 0x5A || 0x80 ≤ r.first)

theorem isTame_lowerRuns : lowerRuns.all LowerRun.isTame = true := by
  decide +kernel

/-- A capital letter of ASCII. -/
def IsCapital (c : Char) : Prop := 0x41 ≤ c.toNat ∧ c.toNat ≤ 0x5A

instance : DecidablePred IsCapital := fun c =>
  inferInstanceAs (Decidable (0x41 ≤ c.toNat ∧ c.toNat ≤ 0x5A))

/-! ## One character -/

/-- A character stays if no run moves it; else it goes where the first one moves it. -/
theorem lowerChar_cases (c : Char) :
    (lowerChar c = c ∧ ∀ r ∈ lowerRuns, r.move? c.toNat = none) ∨
      ∃ r ∈ lowerRuns, (r.first ≤ c.toNat ∧ c.toNat ≤ r.last) ∧
        lowerChar c = Char.ofNat (r.image + (c.toNat - r.first)) := by
  rw [lowerChar]
  split
  · rename_i m hm
    obtain ⟨r, hr, hmove⟩ := List.exists_of_findSome?_eq_some hm
    rw [LowerRun.move?] at hmove
    split at hmove
    · rename_i hrange
      cases hmove
      simp only [Bool.and_eq_true, decide_eq_true_eq] at hrange
      exact .inr ⟨r, hr, hrange.1, rfl⟩
    · cases hmove
  · rename_i hnone
    exact .inl ⟨rfl, List.findSome?_eq_none_iff.1 hnone⟩

/--
A character that a run moves is no blank, and of ASCII only if it is a capital; nor is its image.
-/
theorem moved_spec {r : LowerRun} (hr : r ∈ lowerRuns) {c : Char}
    (hc : r.first ≤ c.toNat ∧ c.toNat ≤ r.last) :
    isBlank c = false ∧ (IsCapital c ∨ 0x80 ≤ c.toNat) ∧
      isBlank (Char.ofNat (r.image + (c.toNat - r.first))) = false ∧
      ¬IsCapital (Char.ofNat (r.image + (c.toNat - r.first))) := by
  have htame := List.all_eq_true.1 isTame_lowerRuns r hr
  simp only [LowerRun.isTame, Bool.and_eq_true, Bool.or_eq_true, decide_eq_true_eq] at htame
  obtain ⟨⟨⟨⟨hfrom, hto⟩, hvalid⟩, himage⟩, hfirst⟩ := htame
  have hmoved : (Char.ofNat (r.image + (c.toNat - r.first))).toNat =
      r.image + (c.toNat - r.first) := by
    have h : (r.image + (c.toNat - r.first)).isValidChar := by
      rw [LowerRun.lastImage] at hvalid
      unfold Nat.isValidChar
      omega
    rw [Char.ofNat, dif_pos h]
    exact UInt32.toNat_ofNatLT
  refine ⟨isBlank_of_avoidsBlanks hfrom hc, ?_, isBlank_of_avoidsBlanks hto ?_, ?_⟩
  · rw [IsCapital]
    omega
  · rw [hmoved, LowerRun.lastImage]
    omega
  · rw [IsCapital, hmoved]
    omega

theorem isBlank_lowerChar (c : Char) : isBlank (lowerChar c) = isBlank c := by
  rcases lowerChar_cases c with ⟨h, -⟩ | ⟨r, hr, hc, h⟩
  · rw [h]
  · obtain ⟨hblank, -, hmoved, -⟩ := moved_spec hr hc
    rw [h, hblank, hmoved]

theorem not_isCapital_lowerChar (c : Char) : ¬IsCapital (lowerChar c) := by
  rcases lowerChar_cases c with ⟨h, hstays⟩ | ⟨r, hr, hc, h⟩
  · rw [h]
    rintro ⟨hlow, hhigh⟩
    have hmoves := hstays ⟨0x41, 0x5A, 1, 0x61⟩ (List.mem_cons_self ..)
    simp [LowerRun.move?, hlow, hhigh, Nat.mod_one] at hmoves
  · rw [h]
    exact (moved_spec hr hc).2.2.2

/-- What is small already stays. -/
theorem lowerChar_eq_self {c : Char} (hascii : c.toNat < 0x80) (hsmall : ¬IsCapital c) :
    lowerChar c = c := by
  rcases lowerChar_cases c with ⟨h, -⟩ | ⟨r, hr, hc, -⟩
  · exact h
  · obtain ⟨-, hcapital, -⟩ := moved_spec hr hc
    exact absurd (hcapital.resolve_right (by omega)) hsmall

/-- The lower case of a character in its text: at least one character, all of them of its kind. -/
theorem lowerCharIn_spec (before : List Char) (c : Char) (after : List Char) :
    lowerCharIn before c after ≠ [] ∧
      ∀ x ∈ lowerCharIn before c after, isBlank x = isBlank c ∧ ¬IsCapital x := by
  rw [lowerCharIn]
  split
  · rename_i hc
    subst hc
    split
    · refine ⟨List.cons_ne_nil _ _, fun x hx => ?_⟩
      obtain rfl := List.mem_singleton.1 hx
      exact ⟨by decide, by decide⟩
    · refine ⟨List.cons_ne_nil _ _, fun x hx => ?_⟩
      obtain rfl := List.mem_singleton.1 hx
      exact ⟨by decide, by decide⟩
  · split
    · rename_i hc
      subst hc
      exact ⟨List.cons_ne_nil _ _, by decide⟩
    · refine ⟨List.cons_ne_nil _ _, fun x hx => ?_⟩
      obtain rfl := List.mem_singleton.1 hx
      exact ⟨isBlank_lowerChar c, not_isCapital_lowerChar c⟩

/-! ## Texts -/

theorem not_isCapital_of_mem_lowerAfter {before cs : List Char} :
    ∀ x ∈ lowerAfter before cs, ¬IsCapital x := by
  induction cs generalizing before with
  | nil => exact fun x hx => nomatch hx
  | cons c cs ih =>
      intro x hx
      rcases List.mem_append.1 hx with hx | hx
      · exact ((lowerCharIn_spec before c cs).2 x hx).2
      · exact ih x hx

/-- The two characters with a rule of their own are not in ASCII. -/
theorem lowerCharIn_of_ascii {before after : List Char} {c : Char} (h : c.toNat < 0x80) :
    lowerCharIn before c after = [lowerChar c] := by
  have hsigma : c ≠ '\u03A3' := by
    rintro rfl
    exact absurd h (by decide)
  have hdotted : c ≠ '\u0130' := by
    rintro rfl
    exact absurd h (by decide)
  rw [lowerCharIn, if_neg hsigma, if_neg hdotted]

/-- A text of small ASCII characters stays. -/
theorem lowerAfter_eq_self {before cs : List Char}
    (h : ∀ c ∈ cs, c.toNat < 0x80 ∧ ¬IsCapital c) : lowerAfter before cs = cs := by
  induction cs generalizing before with
  | nil => rfl
  | cons c cs ih =>
      obtain ⟨hascii, hsmall⟩ := h c (List.mem_cons_self ..)
      rw [lowerAfter, lowerCharIn_of_ascii hascii, lowerChar_eq_self hascii hsmall,
        ih fun d hd => h d (List.mem_cons_of_mem _ hd)]
      rfl

theorem lowerChar_eq_toLower {c : Char} (h : c.toNat < 0x80) : lowerChar c = c.toLower := by
  have hascii : ∀ n < 0x80, lowerChar (Char.ofNat n) = (Char.ofNat n).toLower := by decide +kernel
  exact Char.ofNat_toNat c ▸ hascii c.toNat h

/-- In a text of ASCII only the letters of ASCII change. -/
theorem lowerAfter_eq_map {before cs : List Char} (h : ∀ c ∈ cs, c.toNat < 0x80) :
    lowerAfter before cs = cs.map Char.toLower := by
  induction cs generalizing before with
  | nil => rfl
  | cons c cs ih =>
      have hascii := h c (List.mem_cons_self ..)
      rw [lowerAfter, lowerCharIn_of_ascii hascii, lowerChar_eq_toLower hascii,
        ih fun d hd => h d (List.mem_cons_of_mem _ hd)]
      rfl

theorem all_isBlank_lowerAfter (before cs : List Char) :
    (lowerAfter before cs).all isBlank = cs.all isBlank := by
  induction cs generalizing before with
  | nil => rfl
  | cons c cs ih =>
      have hc : (lowerCharIn before c cs).all isBlank = isBlank c := by
        obtain ⟨hne, hall⟩ := lowerCharIn_spec before c cs
        cases h : lowerCharIn before c cs with
        | nil => exact absurd h hne
        | cons x xs =>
            rw [h] at hall
            have hx := (hall x (List.mem_cons_self ..)).1
            cases hc : isBlank c with
            | true => exact List.all_eq_true.2 fun y hy => hc ▸ (hall y hy).1
            | false => rw [List.all_cons, hx, hc, Bool.false_and]
      rw [lowerAfter, List.all_append, ih, hc, List.all_cons]

theorem head?_lowerAfter (before cs : List Char) :
    (lowerAfter before cs).head?.map isBlank = cs.head?.map isBlank := by
  cases cs with
  | nil => rfl
  | cons c cs =>
      obtain ⟨hne, hall⟩ := lowerCharIn_spec before c cs
      rw [lowerAfter]
      cases h : lowerCharIn before c cs with
      | nil => exact absurd h hne
      | cons x xs => exact congrArg some (hall x (h ▸ List.mem_cons_self ..)).1

theorem getLast?_lowerAfter (before cs : List Char) :
    (lowerAfter before cs).getLast?.map isBlank = cs.getLast?.map isBlank := by
  induction cs generalizing before with
  | nil => rfl
  | cons c cs ih =>
      rw [lowerAfter, List.getLast?_append]
      have hrest := ih (c :: before)
      cases cs with
      | nil =>
          obtain ⟨hne, hall⟩ := lowerCharIn_spec before c []
          rw [lowerAfter, List.getLast?_nil, Option.none_or, List.getLast?_eq_some_getLast hne]
          exact congrArg some (hall _ (List.getLast_mem hne)).1
      | cons d ds =>
          rw [List.getLast?_cons_cons]
          cases hlast : (lowerAfter (c :: before) (d :: ds)).getLast? with
          | none =>
              rw [hlast] at hrest
              exact absurd hrest.symm (by simp)
          | some x =>
              rw [hlast] at hrest
              exact hrest

/-- The ends of a text in lower case are blanks exactly if those of the text are. -/
theorem trimmed_lowerAfter (before cs : List Char) :
    Trimmed (lowerAfter before cs) ↔ Trimmed cs := by
  have hends : ∀ ds : List Char, Trimmed ds ↔
      ds.head?.map isBlank ≠ some true ∧ ds.getLast?.map isBlank ≠ some true := by
    intro ds
    constructor
    · rintro ⟨hhead, hlast⟩
      constructor
      · rintro h
        obtain ⟨c, hc, hblank⟩ := Option.map_eq_some_iff.1 h
        rw [hhead c hc] at hblank
        cases hblank
      · rintro h
        obtain ⟨c, hc, hblank⟩ := Option.map_eq_some_iff.1 h
        rw [hlast c hc] at hblank
        cases hblank
    · rintro ⟨hhead, hlast⟩
      exact ⟨
        fun c hc => Bool.eq_false_iff.2 fun hblank => hhead (by rw [hc, Option.map_some, hblank]),
        fun c hc => Bool.eq_false_iff.2 fun hblank => hlast (by rw [hc, Option.map_some, hblank])⟩
  rw [hends, hends, head?_lowerAfter, getLast?_lowerAfter]

theorem toList_lowerCase (s : String) : (lowerCase s).toList = lowerAfter [] s.toList := by
  rw [lowerCase, String.toList_ofList]

theorem isBlankText_lowerCase (s : String) : isBlankText (lowerCase s) = isBlankText s := by
  rw [isBlankText, isBlankText, toList_lowerCase, all_isBlank_lowerAfter]

theorem trimmed_lowerCase {s : String} : Trimmed (lowerCase s).toList ↔ Trimmed s.toList := by
  rw [toList_lowerCase, trimmed_lowerAfter]

theorem lowerCase_eq_lowerAscii {s : String} (h : ∀ c ∈ s.toList, c.toNat < 0x80) :
    lowerCase s = Text.lowerAscii s :=
  congrArg String.ofList (lowerAfter_eq_map h)

/-- Lower case in ASCII is kept by a second pass. -/
theorem lowerCase_lowerCase {s : String} (h : ∀ c ∈ (lowerCase s).toList, c.toNat < 0x80) :
    lowerCase (lowerCase s) = lowerCase s := by
  have hsmall : ∀ c ∈ (lowerCase s).toList, c.toNat < 0x80 ∧ ¬IsCapital c := by
    intro c hc
    have hmem := hc
    rw [toList_lowerCase] at hmem
    exact ⟨h c hc, not_isCapital_of_mem_lowerAfter c hmem⟩
  rw [lowerCase, lowerAfter_eq_self hsmall, String.ofList_toList]

end WorkItems.Unicode
