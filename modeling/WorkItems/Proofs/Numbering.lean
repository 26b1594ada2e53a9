import WorkItems.Numbering
import WorkItems.Proofs.Decimal.Digits
import WorkItems.Proofs.Dict
import WorkItems.Proofs.Text.Trim
/-!
# New ids

A new id is made from an id that is there: what stands in front of its number is the beginning of
that id, so it does not start with a blank, and since it ends with a digit, it does not end with one
either. That it is free and fits the schema is what the search for it looks for.
-/

namespace WorkItems

namespace NumberedId

theorem label_isPrefix {id : String} {n : NumberedId} (h : ofText? id = some n) :
    n.label.toList <+: id.toList := by
  simp only [ofText?] at h
  split at h
  · cases h
  · cases h
    rw [String.toList_ofList, ← List.reverse_suffix, List.reverse_reverse]
    exact List.dropWhile_suffix _

end NumberedId

namespace Numbering

theorem isBlank_of_isDigit {c : Char} (h : Decimal.isDigit c = true) : Text.isBlank c = false := by
  simp only [Decimal.isDigit, Bool.and_eq_true, decide_eq_true_eq, Char.le_def,
    UInt32.le_iff_toNat_le] at h
  have h48 : 48 ≤ c.toNat := h.1
  have h57 : c.toNat ≤ 57 := h.2
  simp only [Text.isBlank, Bool.or_eq_false_iff, Bool.and_eq_false_iff, decide_eq_false_iff_not,
    beq_eq_false_iff_ne]
  omega

theorem isDigit_of_mem_padded {width n : Nat} {c : Char} (h : c ∈ Decimal.padded width n) :
    Decimal.isDigit c = true := by
  rw [Decimal.padded, List.mem_append] at h
  rcases h with h | h
  · rw [(List.mem_replicate.1 h).2]
    decide
  · exact Decimal.isDigit_of_mem_digits h

theorem padded_ne_nil (width n : Nat) : Decimal.padded width n ≠ [] := by
  simp [Decimal.padded, Decimal.digits_ne_nil]

/-- An id is not blank, and neither are its two ends. -/
structure IsId (id : String) : Prop where
  ne_empty : id ≠ ""
  strip : Text.strip id = id

theorem isId_strip {text : String} (h : Text.strip text ≠ "") : IsId (Text.strip text) where
  ne_empty := h
  strip := by
    rw [Text.strip, Text.strip, String.toList_ofList, Text.trim_eq_self (Text.trimmed_trim _)]

theorem IsId.trimmed {id : String} (h : IsId id) : Text.Trimmed id.toList := by
  have hs := congrArg String.toList h.strip
  rw [Text.strip, String.toList_ofList] at hs
  exact Text.trimmed_iff.2 hs

/-- A number in front of which stands the beginning of an id is an id. -/
theorem isId_render {n : NumberedId}
    (h : ∀ c, n.label.toList.head? = some c → Text.isBlank c = false) :
    IsId n.render := by
  have htext : n.render.toList = n.label.toList ++ Decimal.padded n.width n.number := by
    rw [NumberedId.render, String.toList_append, String.toList_ofList]
  have hpad : ∀ c ∈ Decimal.padded n.width n.number, Text.isBlank c = false :=
    fun c hc => isBlank_of_isDigit (isDigit_of_mem_padded hc)
  have htrim : Text.Trimmed n.render.toList := by
    refine ⟨fun c hc => ?_, fun c hc => ?_⟩
    · rw [htext, List.head?_append, Option.or_eq_some_iff] at hc
      rcases hc with hc | ⟨-, hc⟩
      · exact h c hc
      · exact hpad c (List.mem_of_head? hc)
    · rw [htext, List.getLast?_append, Option.or_eq_some_iff] at hc
      rcases hc with hc | ⟨hnone, -⟩
      · exact hpad c (List.mem_of_getLast? hc)
      · exact absurd (List.getLast?_eq_none_iff.1 hnone) (padded_ne_nil _ _)
  refine ⟨fun hempty => ?_, ?_⟩
  · rw [hempty] at htext
    exact padded_ne_nil _ _ (List.append_eq_nil_iff.1 htext.symm).2
  · rw [Text.strip, Text.trim_eq_self htrim, String.ofList_toList]

theorem mem_taken {ids : List String} {id : String} :
    id ∈ taken ids ↔ id ≠ "" ∧ ∃ text ∈ ids, Text.strip text = id := by
  simp only [taken, Dict.mem_keys_ofList, List.map_map, List.mem_map, List.mem_filter,
    Function.comp_apply]
  constructor
  · rintro ⟨_, ⟨⟨text, htext, rfl⟩, hne⟩, rfl⟩
    exact ⟨by simpa using hne, text, htext, rfl⟩
  · rintro ⟨hne, text, htext, rfl⟩
    exact ⟨_, ⟨⟨text, htext, rfl⟩, by simpa using hne⟩, rfl⟩

theorem highest_mem (best : NumberedId) (ns : List NumberedId) : highest best ns ∈ best :: ns := by
  induction ns generalizing best with
  | nil => simp [highest]
  | cons n ns ih =>
      rw [highest]
      have h := ih (if best.number < n.number then n else best)
      split at h <;> rename_i hlt
      · rw [if_pos hlt]
        exact List.mem_cons_of_mem _ h
      · rw [if_neg hlt]
        rcases List.mem_cons.1 h with h | h
        · rw [h]
          exact List.mem_cons_self ..
        · exact List.mem_cons_of_mem _ (List.mem_cons_of_mem _ h)

/-- What stands in front of the number of a new id starts like an id that is there. -/
theorem head?_label_last {ids : List String} {c : Char}
    (h : (last ids).label.toList.head? = some c) : Text.isBlank c = false := by
  simp only [last] at h
  split at h
  · simp at h
  · rename_i n rest hns
    have hmem : highest n rest ∈ (taken ids).filterMap NumberedId.ofText? :=
      hns ▸ highest_mem n rest
    obtain ⟨id, hid, hn⟩ := List.mem_filterMap.1 hmem
    obtain ⟨hne, text, -, rfl⟩ := mem_taken.1 hid
    exact (isId_strip hne).trimmed.head c
      (Text.head?_of_isPrefix (NumberedId.label_isPrefix hn) h)

/-- A new id is an id, fits the schema, and is none of those in use. -/
theorem next?_spec {s : Schema} {used : List String} {new : String}
    (h : next? s used = some new) : IsId new ∧ s.idMatches new = true ∧ new ∉ used := by
  rw [next?] at h
  have hprop := List.find?_some h
  have hmem := List.mem_of_find?_eq_some h
  simp only [Bool.and_eq_true, Bool.not_eq_true', List.contains_eq_mem, decide_eq_false_iff_not]
    at hprop
  simp only [candidates, List.mem_map] at hmem
  obtain ⟨number, -, rfl⟩ := hmem
  have hid : IsId ({ last used with number : NumberedId }).render :=
    isId_render fun c hc => head?_label_last hc
  exact ⟨hid, hprop.2, fun hused => hprop.1 (mem_taken.2 ⟨hid.ne_empty, _, hused, hid.strip⟩)⟩

end Numbering

end WorkItems
