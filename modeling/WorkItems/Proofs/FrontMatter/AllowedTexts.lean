import WorkItems.Proofs.FrontMatter.Fields
/-!
# Characters that YAML allows

A block with a character that YAML does not allow is not read at all. Block style escapes such
characters; on one line only control characters are escaped, and only between quotes.
-/

namespace WorkItems.FrontMatter

open Yaml

/-- A text of characters that YAML allows. -/
abbrev IsAllowedText (s : String) : Prop := Holds (isAllowed · = true) s

/-- The two characters of the basic plane that are neither allowed nor control characters. -/
def HasNoncharacter (s : String) : Prop := '\ufffe' ∈ s.toList ∨ '\uffff' ∈ s.toList

theorem isAllowed_of_ascii (c : Char) (h : 0x20 ≤ c.toNat) (h' : c.toNat ≤ 0x7E) :
    isAllowed c = true :=
  isAllowed_of_isPrintable (isInLine_of_ascii h h').printable

theorem isAllowed_of_not_isControl {c : Char} (h : Text.isControl c = false)
    (hfffe : c ≠ '\ufffe') (hffff : c ≠ '\uffff') : isAllowed c = true := by
  have hne : ∀ d : Char, c ≠ d → c.toNat ≠ d.toNat := fun d hd heq =>
    hd (Char.ext (UInt32.toNat_inj.1 heq))
  have hfffe' : c.toNat ≠ 0xFFFE := hne '\ufffe' hfffe
  have hffff' : c.toNat ≠ 0xFFFF := hne '\uffff' hffff
  simp only [Text.isControl, Bool.or_eq_false_iff, Bool.and_eq_false_iff, decide_eq_false_iff_not]
    at h
  simp only [isAllowed, Bool.or_eq_true, Bool.and_eq_true, beq_iff_eq, decide_eq_true_eq]
  omega

/-! ## Texts -/

section Texts

variable {s : String}

theorem not_hasNoncharacter_of_isAllowedText (h : IsAllowedText s) : ¬HasNoncharacter s := by
  rintro (hmem | hmem)
  · exact absurd (h _ hmem) (by decide)
  · exact absurd (h _ hmem) (by decide)

theorem isAllowedText_doubleQuoted (h : ¬HasNoncharacter s) : IsAllowedText (doubleQuoted s) := by
  rw [HasNoncharacter, not_or] at h
  exact forall_mem_doubleQuoted isAllowed_of_ascii fun c hc hcontrol =>
    isAllowed_of_not_isControl hcontrol (fun he => h.1 (he ▸ hc)) fun he => h.2 (he ▸ hc)

theorem mem_doubleQuoted {c : Char} (h : escapeChar c = [c]) (hc : c ∈ s.toList) :
    c ∈ (doubleQuoted s).toList := by
  have hmem : c ∈ escape s.toList := List.mem_flatMap.2 ⟨c, hc, by simp [h]⟩
  simp [doubleQuoted, hmem]

theorem hasNoncharacter_doubleQuoted (h : HasNoncharacter s) : HasNoncharacter (doubleQuoted s) :=
  h.imp (mem_doubleQuoted (by decide)) (mem_doubleQuoted (by decide))

theorem isAllowedText_fieldText : IsAllowedText (fieldText s) ↔ ¬HasNoncharacter s := by
  by_cases hquotes : (needsQuotes s || !readsAsItself s) = true
  · rw [fieldText, if_pos hquotes]
    exact ⟨fun h hn => not_hasNoncharacter_of_isAllowedText h (hasNoncharacter_doubleQuoted hn),
      isAllowedText_doubleQuoted⟩
  · simp only [Bool.or_eq_true, Bool.not_eq_true', not_or, Bool.not_eq_true, Bool.not_eq_false]
      at hquotes
    have hreads := readsBack_of_readsAsItself (unquoted_iff.2 hquotes.1) hquotes.2
    rw [fieldText, if_neg (by simp [hquotes])]
    exact iff_of_true hreads.allowed (not_hasNoncharacter_of_isAllowedText hreads.allowed)

end Texts

/-! ## The lines of a block -/

theorem mem_moved {c : Char} {cs : List Char} :
    ∀ {atStart : Bool}, c ∈ moved atStart cs → c = ' ' ∨ c ∈ cs := by
  induction cs with
  | nil => exact fun h => .inr h
  | cons d cs ih =>
      intro atStart h
      rw [moved] at h
      rcases List.mem_append.1 h with h | h
      · split at h
        · exact .inl (by simpa using h)
        · cases h
      · rcases List.mem_cons.1 h with rfl | h
        · exact .inr (List.mem_cons_self ..)
        · exact (ih h).imp_right (List.mem_cons_of_mem _)

/-- What a value on one line has to be for its line to be allowed; block style needs nothing. -/
def IsAllowedValue : Value → Prop
  | .mapping (_ :: _) => True
  | v => v.Fulfils (holdsOfParts (isAllowed · = true))

theorem isAllowedText_shifted {e : String × Value} {es : List (String × Value)}
    (h : movedReading.WritesEntries 0 (toDataEntries (e :: es))) :
    IsAllowedText (shifted (toData (.mapping (e :: es))).render) := by
  obtain ⟨ts, -, hlines⟩ := h
  rw [← render_mapping] at hlines
  intro c hc
  rw [shifted_eq hlines.whole.noReturn (.inr hlines.whole.ends)] at hc
  rcases mem_moved hc with rfl | hc
  · decide
  · exact isAllowed_of_isPrintable (hlines.whole.printable c hc)

theorem isAllowedText_line {name : String} {value : Value} :
    IsAllowedText (fieldText name ++ ": " ++ inline value ++ "\n") ↔
      IsAllowedText (fieldText name) ∧ value.Fulfils (holdsOfParts (isAllowed · = true)) := by
  have hcolon : IsAllowedText ": " := by simp only [IsAllowedText, Holds]; decide
  have hfeed : IsAllowedText "\n" := by simp only [IsAllowedText, Holds]; decide
  rw [IsAllowedText, holds_append, holds_append, holds_append, and_iff_left hfeed,
    and_iff_left hcolon, holds_inline (by decide)]

theorem isAllowedText_fieldLines {name : String} {value : Value} (h : Prints name value) :
    IsAllowedText (fieldLines name value) ↔
      IsAllowedText (fieldText name) ∧ IsAllowedValue value := by
  match value, h with
  | .mapping (e :: es), h =>
      have hcolon : IsAllowedText ":\n" := by simp only [IsAllowedText, Holds]; decide
      have hlines := isAllowedText_shifted
        (writesEntries_moved h.parts (List.cons_ne_nil e es) 0)
      rw [fieldLines, IsAllowedText, holds_append, holds_append, and_iff_left hlines,
        and_iff_left hcolon]
      exact (and_iff_left trivial).symm
  | .mapping [], _ | .sequence _, _ | .string _, _ | .number _, _ | .bool _, _ | .null, _ =>
      exact isAllowedText_line

theorem isAllowedText_coreLine {item : Item} {field : CoreField} :
    IsAllowedText (coreLine item field) ↔ IsAllowedText (coreText (item.core field)) := by
  have hcolon : IsAllowedText ": " := by simp only [IsAllowedText, Holds]; decide
  have hfeed : IsAllowedText "\n" := by simp only [IsAllowedText, Holds]; decide
  have hname : IsAllowedText field.name := by
    cases field <;> (simp only [IsAllowedText, Holds]; decide)
  rw [coreLine, IsAllowedText, holds_append, holds_append, holds_append, and_iff_left hfeed,
    and_iff_left hcolon, and_iff_right hname]

end WorkItems.FrontMatter
