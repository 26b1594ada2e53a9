import WorkItems.FrontMatter.Printer
import WorkItems.Proofs.Value
/-!
# The characters of what is written

What holds of all printable characters of ASCII holds of escapes. A value on one line consists of
its parts and of a few indicators between them, so what holds of the indicators holds of the whole
text exactly if it holds of the parts.
-/

namespace WorkItems.FrontMatter

/-! ## Escapes -/

section Escapes

variable {P : Char → Prop} (hascii : ∀ c : Char, 0x20 ≤ c.toNat → c.toNat ≤ 0x7E → P c)
include hascii

theorem holds_hexChar {d : Nat} (h : d < 16) : P (hexChar d) := by
  have hall : ∀ d < 16, 0x20 ≤ (hexChar d).toNat ∧ (hexChar d).toNat ≤ 0x7E := by decide
  exact hascii _ (hall d h).1 (hall d h).2

/-- Only characters that are no control characters are written as they are. -/
theorem forall_mem_escapeChar {c : Char} (hself : Text.isControl c = false → P c) :
    ∀ d ∈ escapeChar c, P d := by
  have hslash : P '\\' := hascii _ (by decide) (by decide)
  have hletter : P 'n' ∧ P 'r' ∧ P 't' ∧ P 'x' ∧ P '"' :=
    ⟨hascii _ (by decide) (by decide), hascii _ (by decide) (by decide),
      hascii _ (by decide) (by decide), hascii _ (by decide) (by decide),
      hascii _ (by decide) (by decide)⟩
  rw [escapeChar]
  split
  · simp [hslash]
  split
  · simp [hslash, hletter]
  split
  · simp [hslash, hletter]
  split
  · simp [hslash, hletter]
  split
  · simp [hslash, hletter]
  split
  · rename_i hcontrol
    simp only [Text.isControl, Bool.or_eq_true, Bool.and_eq_true, decide_eq_true_eq] at hcontrol
    have hhigh : P (hexChar (c.toNat / 16)) := holds_hexChar hascii (by omega)
    have hlow : P (hexChar (c.toNat % 16)) := holds_hexChar hascii (by omega)
    simp [hslash, hletter, hhigh, hlow]
  · rename_i hcontrol
    simpa using hself (by simpa using hcontrol)

theorem forall_mem_doubleQuoted {s : String}
    (hself : ∀ c ∈ s.toList, Text.isControl c = false → P c) :
    ∀ c ∈ (doubleQuoted s).toList, P c := by
  have hquote : P '"' := hascii _ (by decide) (by decide)
  intro c hc
  simp only [doubleQuoted, String.toList_ofList, List.mem_append, List.mem_cons, List.not_mem_nil,
    or_false] at hc
  rcases hc with (rfl | hc) | rfl
  · exact hquote
  · obtain ⟨d, hd, hmem⟩ := List.mem_flatMap.1 hc
    exact forall_mem_escapeChar hascii (hself d hd) c hmem
  · exact hquote

end Escapes

/-! ## Values on one line -/

/-- Each character of the text has the property. -/
def Holds (P : Char → Prop) (s : String) : Prop := ∀ c ∈ s.toList, P c

/-- Each character of each part of a value has the property. -/
def holdsOfParts (P : Char → Prop) : Value.Condition where
  text s := Holds P (fieldText s)
  key s := Holds P (fieldText s)
  number n := Holds P (numberText n)

/-- What is written between the parts. -/
def indicators : List Char := "[]\x7b\x7d,: nulltruefalse".toList

section Holds

variable {P : Char → Prop}

theorem holds_append {s t : String} : Holds P (s ++ t) ↔ Holds P s ∧ Holds P t := by
  simp only [Holds, String.toList_append, List.mem_append, or_imp, forall_and]

theorem holds_of_indicators (h : ∀ c ∈ indicators, P c) {s : String}
    (hs : ∀ c ∈ s.toList, c ∈ indicators) : Holds P s := fun c hc => h c (hs c hc)

theorem holds_commaSeparated (h : ∀ c ∈ indicators, P c) :
    ∀ {texts : List String}, Holds P (Value.commaSeparated texts) ↔ ∀ t ∈ texts, Holds P t
  | [] => by simp [Value.commaSeparated, Holds]
  | [t] => by simp [Value.commaSeparated]
  | t :: u :: ts => by
      have hcomma : Holds P ", " := holds_of_indicators h (by decide)
      rw [Value.commaSeparated, String.intercalate_cons_cons, holds_append, holds_append,
        ← Value.commaSeparated, holds_commaSeparated h, and_iff_left hcomma]
      exact List.forall_mem_cons.symm

mutual

theorem holds_inline (h : ∀ c ∈ indicators, P c) :
    ∀ {v : Value}, Holds P (inline v) ↔ v.Fulfils (holdsOfParts P)
  | .null => iff_true_intro (holds_of_indicators h (by decide))
  | .bool true => iff_true_intro (holds_of_indicators h (by decide))
  | .bool false => iff_true_intro (holds_of_indicators h (by decide))
  | .number _ => Iff.rfl
  | .string _ => Iff.rfl
  | .sequence items => by
      have hopen : Holds P "[" := holds_of_indicators h (by decide)
      have hclose : Holds P "]" := holds_of_indicators h (by decide)
      rw [inline, holds_append, holds_append, and_iff_left hclose, and_iff_right hopen,
        holds_commaSeparated h]
      exact holds_inlineItems h
  | .mapping entries => by
      have hopen : Holds P "\x7b" := holds_of_indicators h (by decide)
      have hclose : Holds P "\x7d" := holds_of_indicators h (by decide)
      rw [inline, holds_append, holds_append, and_iff_left hclose, and_iff_right hopen,
        holds_commaSeparated h]
      exact holds_inlineEntries h

theorem holds_inlineItems (h : ∀ c ∈ indicators, P c) : ∀ {vs : List Value},
    (∀ t ∈ inlineItems vs, Holds P t) ↔ Value.FulfilsItems (holdsOfParts P) vs
  | [] => by simp [inlineItems, Value.FulfilsItems]
  | v :: vs => by
      rw [inlineItems, List.forall_mem_cons, holds_inline h, holds_inlineItems h]
      rfl

theorem holds_inlineEntries (h : ∀ c ∈ indicators, P c) : ∀ {es : List (String × Value)},
    (∀ t ∈ inlineEntries es, Holds P t) ↔ Value.FulfilsEntries (holdsOfParts P) es
  | [] => by simp [inlineEntries, Value.FulfilsEntries]
  | (s, v) :: es => by
      have hcolon : Holds P ": " := holds_of_indicators h (by decide)
      rw [inlineEntries, List.forall_mem_cons, holds_append, holds_append, and_iff_left hcolon,
        holds_inline h, holds_inlineEntries h, and_assoc]
      rfl

end

end Holds

end WorkItems.FrontMatter
