import Mathlib.Data.List.Sort
import WorkItems.Proofs.Numbering
import WorkItems.Proofs.Text.Bytes
/-!
# The id that comes next

A new id counts on from the highest number at the end of an id in use. Such a number is all digits
at the end, however many zeros it starts with, as long as it has 64 bits; a longer one is no number
at all. What is put in front of the new number comes from one id only, and its width from another
one maybe, but together they never make an id that is in use: the digits at the end of the new id
are those of its number alone, and no id in use ends with a number that high.

Ids in use are the ids without blanks around them, so it does not matter how they are ordered, how
often one comes, or what blanks it has around it.
-/

namespace WorkItems

/-! ## Ids that end with a number -/

namespace NumberedId

/-- The text is the label, and behind it all digits at its end, which are those of the number. -/
structure Spells (n : NumberedId) (id : String) : Prop where
  digits : ∃ digits, id.toList = n.label.toList ++ digits ∧ digits ≠ [] ∧
    (∀ c ∈ digits, Decimal.isDigit c = true) ∧ Decimal.value digits = n.number ∧
    digits.length = n.width
  apart : ∀ c, n.label.toList.getLast? = some c → Decimal.isDigit c = false
  lt_bound : n.number < bound

/-- Which texts are numbered ids, and with what numbers. -/
theorem ofText?_eq_some_iff {id : String} {n : NumberedId} : ofText? id = some n ↔ n.Spells id := by
  constructor
  · intro h
    rw [ofText?] at h
    split at h
    · cases h
    · rename_i hnumber
      simp only [Bool.or_eq_true, List.isEmpty_iff, decide_eq_true_eq, not_or,
        Nat.not_le] at hnumber
      obtain rfl := Option.some.inj h
      refine ⟨⟨_, ?_, hnumber.1, ?_, rfl, rfl⟩, ?_, hnumber.2⟩
      · rw [String.toList_ofList, ← List.reverse_append, List.takeWhile_append_dropWhile,
          List.reverse_reverse]
      · intro c hc
        exact List.all_eq_true.1 List.all_takeWhile c (List.mem_reverse.1 hc)
      · intro c hc
        rw [String.toList_ofList, List.getLast?_reverse] at hc
        exact Text.head?_dropWhile hc
  · rintro ⟨⟨digits, htext, hne, hdigits, hvalue, hwidth⟩, hapart, hbound⟩
    have hreversed : id.toList.reverse = digits.reverse ++ n.label.toList.reverse := by
      rw [htext, List.reverse_append]
    have hall : ∀ c ∈ digits.reverse, Char.isDigit c = true :=
      fun c hc => hdigits c (List.mem_reverse.1 hc)
    have hlabel : ∀ c, n.label.toList.reverse.head? = some c → Char.isDigit c = false := by
      intro c hc
      rw [List.head?_reverse] at hc
      exact hapart c hc
    have hdrop : id.toList.reverse.dropWhile Char.isDigit = n.label.toList.reverse := by
      rw [hreversed, List.dropWhile_append_of_pos hall, Text.dropWhile_eq_self hlabel]
    have htake : id.toList.reverse.takeWhile Char.isDigit = digits.reverse := by
      have hsplit := List.takeWhile_append_dropWhile (p := Char.isDigit) (l := id.toList.reverse)
      rw [hdrop] at hsplit
      exact List.append_cancel_right (hsplit.trans hreversed)
    have hfits : (digits.isEmpty || decide (bound ≤ n.number)) = false := by
      simpa [hne] using hbound
    simp [ofText?, htake, hdrop, hvalue, hwidth, hfits]

theorem Spells.unique {id : String} {m n : NumberedId} (hm : m.Spells id) (hn : n.Spells id) :
    m = n :=
  Option.some.inj ((ofText?_eq_some_iff.2 hm).symm.trans (ofText?_eq_some_iff.2 hn))

/--
What is written of a number behind a label ends with that number, in its width or a greater one.
-/
theorem exists_spells_render {n : NumberedId}
    (hapart : ∀ c, n.label.toList.getLast? = some c → Decimal.isDigit c = false)
    (hbound : n.number < bound) : ∃ width, { n with width : NumberedId }.Spells n.render := by
  refine ⟨_, ⟨Decimal.padded n.width n.number, ?_, Numbering.padded_ne_nil _ _,
    fun _ => Numbering.isDigit_of_mem_padded, ?_, rfl⟩, hapart, hbound⟩
  · rw [render, String.toList_append, String.toList_ofList]
  · rw [Decimal.padded, Decimal.value_zeros_append, Decimal.value_digits]

end NumberedId

namespace Numbering

/-! ## Ids in use -/

/-- An id in use: one of the ids without the blanks around it, unless it is blank. -/
def InUse (ids : List String) (id : String) : Prop := id ≠ "" ∧ ∃ text ∈ ids, Text.strip text = id

/-- An id in use that ends with this number. -/
def HasNumber (ids : List String) (id : String) (n : NumberedId) : Prop :=
  InUse ids id ∧ n.Spells id

theorem hasNumber_iff {ids : List String} {id : String} {n : NumberedId} :
    HasNumber ids id n ↔ id ∈ taken ids ∧ NumberedId.ofText? id = some n := by
  rw [HasNumber, InUse, ← mem_taken, NumberedId.ofText?_eq_some_iff]

theorem pairwise_taken (ids : List String) : (taken ids).Pairwise (· < ·) :=
  List.pairwise_map.2 (Dict.sorted _)

/-- The same ids are in use in two lists. -/
def SameIds (ids others : List String) : Prop := ∀ id, InUse ids id ↔ InUse others id

theorem SameIds.taken_eq {ids others : List String} (h : SameIds ids others) :
    taken ids = taken others :=
  (pairwise_taken ids).eq_of_mem_iff (pairwise_taken others) fun id =>
    mem_taken.trans ((h id).trans mem_taken.symm)

/-! ## What is counted on from -/

/--
The highest number among the ids in use, with the label of the first one in the order of bytes of
those that reach it, and the width of the widest one. Without numbered ids it is zero without a
label.
-/
structure CountsOn (ids : List String) (last : NumberedId) : Prop where
  number_le : ∀ id n, HasNumber ids id n → n.number ≤ last.number
  label : (last.label = "" ∧ last.number = 0 ∧ ∀ id n, ¬HasNumber ids id n) ∨
    ∃ id n, HasNumber ids id n ∧ n.number = last.number ∧ n.label = last.label ∧
      ∀ other m, HasNumber ids other m → m.number = last.number →
        other = id ∨ Text.bytes id < Text.bytes other
  leastWidth_le : leastWidth ≤ last.width
  width_le : ∀ id n, HasNumber ids id n → n.width ≤ last.width
  width : last.width = leastWidth ∨ ∃ id n, HasNumber ids id n ∧ n.width = last.width

theorem CountsOn.unique {ids : List String} {a b : NumberedId} (ha : CountsOn ids a)
    (hb : CountsOn ids b) : a = b := by
  have hnumber : a.number = b.number ∧ a.label = b.label := by
    rcases ha.label with ⟨halabel, hanumber, hnone⟩ | ⟨i, m, hi, hm, hmlabel, hfirst⟩
    · rcases hb.label with ⟨hblabel, hbnumber, -⟩ | ⟨j, n, hj, -⟩
      · exact ⟨hanumber.trans hbnumber.symm, halabel.trans hblabel.symm⟩
      · exact absurd hj (hnone j n)
    · rcases hb.label with ⟨-, -, hnone⟩ | ⟨j, n, hj, hn, hnlabel, hfirst'⟩
      · exact absurd hi (hnone i m)
      · have heq : a.number = b.number :=
          Nat.le_antisymm (hm ▸ hb.number_le i m hi) (hn ▸ ha.number_le j n hj)
        refine ⟨heq, ?_⟩
        have hij : i = j := by
          rcases hfirst j n hj (hn.trans heq.symm) with rfl | hlt
          · rfl
          · rcases hfirst' i m hi (hm.trans heq) with rfl | hlt'
            · rfl
            · exact absurd hlt' (List.lt_asymm hlt)
        subst hij
        obtain rfl := hi.2.unique hj.2
        exact hmlabel.symm.trans hnlabel
  have hwidth : a.width = b.width := by
    have hle : ∀ {x y : NumberedId}, CountsOn ids x → CountsOn ids y → x.width ≤ y.width := by
      intro x y hx hy
      rcases hx.width with hw | ⟨id, n, hn, hw⟩
      · exact hw ▸ hy.leastWidth_le
      · exact hw ▸ hy.width_le id n hn
    exact Nat.le_antisymm (hle ha hb) (hle hb ha)
  obtain ⟨label, number, width⟩ := a
  obtain ⟨rfl, rfl, rfl⟩ : label = b.label ∧ number = b.number ∧ width = b.width :=
    ⟨hnumber.2, hnumber.1, hwidth⟩
  rfl

/-- No number is higher than that of the one that is chosen. -/
theorem le_highest (best : NumberedId) (ns : List NumberedId) :
    ∀ n ∈ best :: ns, n.number ≤ (highest best ns).number := by
  induction ns generalizing best with
  | nil => exact List.forall_mem_singleton.2 (Nat.le_refl _)
  | cons n ns ih =>
      rw [highest, List.forall_mem_cons, List.forall_mem_cons]
      by_cases hlt : best.number < n.number
      · rw [if_pos hlt]
        obtain ⟨hn, hns⟩ := List.forall_mem_cons.1 (ih n)
        exact ⟨Nat.le_trans (Nat.le_of_lt hlt) hn, hn, hns⟩
      · rw [if_neg hlt]
        obtain ⟨hbest, hns⟩ := List.forall_mem_cons.1 (ih best)
        exact ⟨hbest, Nat.le_trans (Nat.le_of_not_lt hlt) hbest, hns⟩

/-- The one that is chosen is in front of all others with its number. -/
theorem highest_eq (best : NumberedId) (ns : List NumberedId) :
    ∃ before behind, best :: ns = before ++ highest best ns :: behind ∧
      ∀ n ∈ before, n.number < (highest best ns).number := by
  induction ns generalizing best with
  | nil => exact ⟨[], [], rfl, List.forall_mem_nil _⟩
  | cons n ns ih =>
      rw [highest]
      by_cases hlt : best.number < n.number
      · rw [if_pos hlt]
        obtain ⟨before, behind, heq, hbefore⟩ := ih n
        have hn : n.number ≤ (highest n ns).number := le_highest n ns n (List.mem_cons_self ..)
        exact ⟨best :: before, behind, congrArg (best :: ·) heq,
          List.forall_mem_cons.2 ⟨Nat.lt_of_lt_of_le hlt hn, hbefore⟩⟩
      · rw [if_neg hlt]
        obtain ⟨before, behind, heq, hbefore⟩ := ih best
        cases before with
        | nil =>
            obtain ⟨hbest, rfl⟩ := List.cons.inj heq
            rw [← hbest]
            exact ⟨[], n :: ns, rfl, List.forall_mem_nil _⟩
        | cons b before =>
            obtain ⟨rfl, hns⟩ := List.cons.inj heq
            obtain ⟨hbest, hbefore⟩ := List.forall_mem_cons.1 hbefore
            refine ⟨best :: n :: before, behind, congrArg (best :: n :: ·) hns, ?_⟩
            exact List.forall_mem_cons.2 ⟨hbest, List.forall_mem_cons.2
              ⟨Nat.lt_of_le_of_lt (Nat.le_of_not_lt hlt) hbest, hbefore⟩⟩

theorem widest_spec (ns : List NumberedId) :
    leastWidth ≤ widest ns ∧ (∀ n ∈ ns, n.width ≤ widest ns) ∧
    (widest ns = leastWidth ∨ ∃ n ∈ ns, n.width = widest ns) := by
  suffices hfold : ∀ start, start ≤ (ns.map (·.width)).foldl max start ∧
      (∀ n ∈ ns, n.width ≤ (ns.map (·.width)).foldl max start) ∧
      ((ns.map (·.width)).foldl max start = start ∨
        ∃ n ∈ ns, n.width = (ns.map (·.width)).foldl max start) from hfold leastWidth
  induction ns with
  | nil => exact fun start => ⟨Nat.le_refl _, by simp, .inl rfl⟩
  | cons n ns ih =>
      intro start
      obtain ⟨hstart, hall, hone⟩ := ih (max start n.width)
      rw [List.map_cons, List.foldl_cons]
      refine ⟨Nat.le_trans (Nat.le_max_left ..) hstart,
        List.forall_mem_cons.2 ⟨Nat.le_trans (Nat.le_max_right ..) hstart, hall⟩, ?_⟩
      rcases hone with heq | ⟨m, hm, heq⟩
      · rcases Nat.le_total n.width start with hle | hle
        · exact .inl (heq.trans (Nat.max_eq_left hle))
        · exact .inr ⟨n, List.mem_cons_self .., ((heq.trans (Nat.max_eq_right hle))).symm⟩
      · exact .inr ⟨m, List.mem_cons_of_mem _ hm, heq⟩

theorem mem_numbered {ids : List String} {n : NumberedId} :
    n ∈ (taken ids).filterMap NumberedId.ofText? ↔ ∃ id, HasNumber ids id n := by
  rw [List.mem_filterMap]
  exact exists_congr fun id => hasNumber_iff.symm

/-- The number that is chosen is that of an id in use, and in front of all others with it. -/
theorem exists_first_highest {ids : List String} {n : NumberedId} {rest : List NumberedId}
    (hns : (taken ids).filterMap NumberedId.ofText? = n :: rest) :
    ∃ id, HasNumber ids id (highest n rest) ∧
      ∀ other m, HasNumber ids other m → m.number = (highest n rest).number →
        other = id ∨ Text.bytes id < Text.bytes other := by
  obtain ⟨before, behind, hsplit, hbefore⟩ := highest_eq n rest
  obtain ⟨front, back, hids, hfront, hback⟩ := List.filterMap_eq_append_iff.1 (hns.trans hsplit)
  obtain ⟨skipped, id, later, rfl, hskipped, hid, -⟩ := List.filterMap_eq_cons_iff.1 hback
  have hmem : id ∈ taken ids := by
    rw [hids]
    simp
  refine ⟨id, hasNumber_iff.2 ⟨hmem, hid⟩, fun other m hother hnumber => ?_⟩
  obtain ⟨htaken, hm⟩ := hasNumber_iff.1 hother
  -- In front of the chosen id no number is as high, and behind it the ids are greater.
  have hsorted := pairwise_taken ids
  rw [hids] at htaken hsorted
  rcases List.mem_append.1 htaken with hmem | hmem
  · have hlt := hbefore m (hfront ▸ List.mem_filterMap.2 ⟨other, hmem, hm⟩)
    exact absurd hnumber (Nat.ne_of_lt hlt)
  · rcases List.mem_append.1 hmem with hmem | hmem
    · rw [hskipped other hmem] at hm
      cases hm
    · rcases List.mem_cons.1 hmem with rfl | hmem
      · exact .inl rfl
      · have hbehind := (List.pairwise_append.1 (List.pairwise_append.1 hsorted).2.1).2.1
        exact .inr (Text.lt_iff_bytes_lt.1 ((List.pairwise_cons.1 hbehind).1 other hmem))

theorem countsOn_last (ids : List String) : CountsOn ids (last ids) := by
  obtain ⟨hleast, hwidest, hwidth⟩ := widest_spec ((taken ids).filterMap NumberedId.ofText?)
  cases hns : (taken ids).filterMap NumberedId.ofText? with
  | nil =>
      have hlast : last ids = ⟨"", 0, leastWidth⟩ := by
        simp only [last, hns]
      have hnone : ∀ id n, ¬HasNumber ids id n := by
        intro id n h
        have hmem := mem_numbered.2 ⟨id, h⟩
        rw [hns] at hmem
        cases hmem
      rw [hlast]
      exact {
        number_le := fun id n h => absurd h (hnone id n)
        label := .inl ⟨rfl, rfl, hnone⟩
        leastWidth_le := Nat.le_refl _
        width_le := fun id n h => absurd h (hnone id n)
        width := .inl rfl }
  | cons n rest =>
      have hlast : last ids = { highest n rest with
          width := widest ((taken ids).filterMap NumberedId.ofText?) } := by
        simp only [last, hns]
      obtain ⟨id, hid, hfirst⟩ := exists_first_highest hns
      rw [hlast]
      exact {
        number_le := fun i m h => le_highest n rest m (hns ▸ mem_numbered.2 ⟨i, h⟩)
        label := .inr ⟨id, _, hid, rfl, rfl, hfirst⟩
        leastWidth_le := hleast
        width_le := fun i m h => hwidest m (mem_numbered.2 ⟨i, h⟩)
        width := by
          rcases hwidth with heq | ⟨m, hm, heq⟩
          · exact .inl heq
          · obtain ⟨i, hi⟩ := mem_numbered.1 hm
            exact .inr ⟨i, m, hi, heq⟩ }

theorem countsOn_iff {ids : List String} {n : NumberedId} : CountsOn ids n ↔ n = last ids :=
  ⟨fun h => h.unique (countsOn_last ids), fun h => h ▸ countsOn_last ids⟩

/-! ## The search for a new id -/

/--
The id with the number `number`: the label that is counted on, and the number with zeros up to the
width.
-/
def numbered (ids : List String) (number : Nat) : String :=
  (last ids).label ++ String.ofList (Decimal.padded (last ids).width number)

/-- A number that is tried, and with which the schema accepts the id. -/
def IsFree (s : Schema) (ids : List String) (number : Nat) : Prop :=
  (last ids).number < number ∧ number ≤ (last ids).number + attempts ∧ number < NumberedId.bound ∧
    s.idMatches (numbered ids number) = true

/-- No id in use has a number above the highest one, however it is written. -/
theorem not_inUse_numbered {ids : List String} {number : Nat} (hlt : (last ids).number < number)
    (hbound : number < NumberedId.bound) : ¬InUse ids (numbered ids number) := by
  intro h
  have hlast := countsOn_last ids
  have hapart : ∀ c, (last ids).label.toList.getLast? = some c → Decimal.isDigit c = false := by
    rcases hlast.label with ⟨hlabel, -⟩ | ⟨id, n, hn, -, hlabel, -⟩
    · rw [hlabel]
      simp
    · rw [← hlabel]
      exact hn.2.apart
  obtain ⟨width, hspells⟩ := NumberedId.exists_spells_render
    (n := { last ids with number := number }) hapart hbound
  exact absurd (hlast.number_le _ _ ⟨h, hspells⟩) (Nat.not_le.2 hlt)

/--
None of the ids that are tried is in use, so it only matters which of them the schema accepts.
-/
theorem next?_eq (s : Schema) (ids : List String) :
    next? s ids = ((List.range attempts).find? fun k =>
      decide ((last ids).number + k + 1 < NumberedId.bound) &&
        s.idMatches (numbered ids ((last ids).number + k + 1))).map
      fun k => numbered ids ((last ids).number + k + 1) := by
  rw [next?, candidates, List.find?_map, List.find?_filter, List.find?_map, Option.map_map]
  refine congrArg₂ Option.map rfl (congrArg (List.find? · _) (funext fun k => ?_))
  have hlt : (last ids).number < (last ids).number + k + 1 := by omega
  simp only [Function.comp_apply, Bool.decide_and, Bool.decide_eq_true]
  change (decide ((last ids).number + k + 1 < NumberedId.bound) &&
    (!(taken ids).contains (numbered ids _) && s.idMatches (numbered ids _))) = _
  by_cases hbound : (last ids).number + k + 1 < NumberedId.bound
  · have hfresh : (taken ids).contains (numbered ids ((last ids).number + k + 1)) = false := by
      rw [List.contains_eq_mem, decide_eq_false_iff_not, mem_taken]
      exact not_inUse_numbered hlt hbound
    rw [hfresh, Bool.not_false, Bool.true_and]
  · rw [decide_eq_false hbound, Bool.false_and, Bool.false_and]

/-- The numbers that are tried, counted from the last one. -/
theorem isFree_iff {s : Schema} {ids : List String} {number : Nat} :
    IsFree s ids number ↔ ∃ k < attempts, number = (last ids).number + k + 1 ∧
      (decide ((last ids).number + k + 1 < NumberedId.bound) &&
        s.idMatches (numbered ids ((last ids).number + k + 1))) = true := by
  constructor
  · rintro ⟨hlt, hle, hbound, hmatch⟩
    obtain ⟨k, rfl⟩ := Nat.exists_eq_add_of_lt hlt
    exact ⟨k, by omega, rfl, by rw [hmatch, decide_eq_true hbound]; rfl⟩
  · rintro ⟨k, hk, rfl, h⟩
    obtain ⟨hbound, hmatch⟩ := Bool.and_eq_true_iff.1 h
    exact ⟨by omega, by omega, of_decide_eq_true hbound, hmatch⟩

theorem exists_numbered_of_mem_candidates {ids : List String} {id : String}
    (h : id ∈ candidates ids) :
    ∃ number, (last ids).number < number ∧ number < NumberedId.bound ∧
    id = numbered ids number := by
  obtain ⟨number, hmem, rfl⟩ := List.mem_map.1 h
  obtain ⟨hrange, hbound⟩ := List.mem_filter.1 hmem
  obtain ⟨k, -, rfl⟩ := List.mem_map.1 hrange
  exact ⟨_, by omega, of_decide_eq_true hbound, rfl⟩

theorem next?_eq_some_iff {s : Schema} {ids : List String} {new : String} :
    next? s ids = some new ↔ ∃ number, IsFree s ids number ∧
      (∀ m, IsFree s ids m → number ≤ m) ∧ new = numbered ids number := by
  rw [next?_eq, Option.map_eq_some_iff]
  constructor
  · rintro ⟨k, hk, rfl⟩
    obtain ⟨hfits, hmem, hfirst⟩ := List.find?_range_eq_some.1 hk
    refine ⟨_, isFree_iff.2 ⟨k, List.mem_range.1 hmem, rfl, hfits⟩, fun m hm => ?_, rfl⟩
    obtain ⟨j, -, rfl, hj⟩ := isFree_iff.1 hm
    have hle : k ≤ j := Nat.le_of_not_lt fun hlt => by
      have hnot := hfirst j hlt
      rw [hj] at hnot
      cases hnot
    omega
  · rintro ⟨number, hfree, hleast, rfl⟩
    obtain ⟨k, hk, rfl, hfits⟩ := isFree_iff.1 hfree
    refine ⟨k, List.find?_range_eq_some.2 ⟨hfits, List.mem_range.2 hk, fun j hj => ?_⟩, rfl⟩
    rw [Bool.not_eq_true']
    refine Bool.eq_false_iff.2 fun hfits' => ?_
    have hle := hleast _ (isFree_iff.2 ⟨j, Nat.lt_trans hj hk, rfl, hfits'⟩)
    omega

theorem next?_eq_none_iff {s : Schema} {ids : List String} :
    next? s ids = none ↔ ∀ number, ¬IsFree s ids number := by
  rw [next?_eq, Option.map_eq_none_iff, List.find?_range_eq_none]
  constructor
  · intro h number hfree
    obtain ⟨k, hk, -, hfits⟩ := isFree_iff.1 hfree
    have hnot := h k hk
    rw [hfits] at hnot
    cases hnot
  · intro h k hk
    rw [Bool.not_eq_true']
    exact Bool.eq_false_iff.2 fun hfits => h _ (isFree_iff.2 ⟨k, hk, rfl, hfits⟩)

/-! ## Other lists of the same ids -/

/-- The ids in another order, with one of them again, or with other blanks around one of them. -/
inductive Rearranged : List String → List String → Prop
  | swap {ids others : List String} : ids.Perm others → Rearranged ids others
  | again {ids : List String} {id : String} : id ∈ ids → Rearranged ids (id :: ids)
  | pad {ids : List String} {id padded : String} {front back : List Char} :
      (∀ c ∈ front, Text.isBlank c = true) → (∀ c ∈ back, Text.isBlank c = true) →
      padded.toList = front ++ id.toList ++ back → Rearranged (id :: ids) (padded :: ids)
  | both {ids others more : List String} :
      Rearranged ids others → Rearranged others more → Rearranged ids more

theorem SameIds.of_strip {ids others : List String}
    (h : ∀ id, id ∈ ids.map Text.strip ↔ id ∈ others.map Text.strip) : SameIds ids others := by
  intro id
  have hid := h id
  rw [List.mem_map, List.mem_map] at hid
  rw [InUse, InUse, hid]

theorem Rearranged.sameIds {ids others : List String} (h : Rearranged ids others) :
    SameIds ids others := by
  induction h with
  | swap hperm => exact .of_strip fun id => (hperm.map _).mem_iff
  | @again ids id hmem =>
      refine .of_strip fun other => ?_
      rw [List.map_cons, List.mem_cons]
      refine ⟨.inr, ?_⟩
      rintro (rfl | h)
      · exact List.mem_map_of_mem hmem
      · exact h
  | @pad ids id padded front back hfront hback htext =>
      have hstrip : Text.strip padded = Text.strip id := by
        rw [Text.strip, Text.strip, htext, Text.trim_append hfront hback]
      refine .of_strip fun other => ?_
      rw [List.map_cons, List.map_cons, hstrip]
  | both _ _ ih ih' => exact fun id => (ih id).trans (ih' id)

/-- Only the ids in use matter. -/
theorem next?_congr (s : Schema) {ids others : List String} (h : SameIds ids others) :
    next? s others = next? s ids := by
  simp only [next?, candidates, last, h.taken_eq]

/--
A new id has the label and the width of `CountsOn`, and the least number above the highest one with
which the schema accepts it, among the first thousand and below `NumberedId.bound`; there is none
exactly if there is no such number. No id that is tried is in use, so whether one is in use never
decides. How the ids in use are listed does not matter.
-/
theorem next?_counts_on (s : Schema) (ids : List String) :
    (∀ n, CountsOn ids n ↔ n = last ids) ∧
    (∀ new, next? s ids = some new ↔ ∃ number, IsFree s ids number ∧
      (∀ m, IsFree s ids m → number ≤ m) ∧ new = numbered ids number) ∧
    (next? s ids = none ↔ ∀ number, ¬IsFree s ids number) ∧
    (∀ number, (last ids).number < number → number < NumberedId.bound →
      ∀ text ∈ ids, Text.strip text ≠ numbered ids number) ∧
    (∀ id ∈ candidates ids, id ∉ taken ids) ∧
    ∀ others, Rearranged ids others → next? s others = next? s ids := by
  refine ⟨fun n => countsOn_iff, fun new => next?_eq_some_iff, next?_eq_none_iff, ?_, ?_, ?_⟩
  · intro number hlt hbound text htext heq
    refine not_inUse_numbered hlt hbound ⟨fun hempty => ?_, text, htext, heq⟩
    have hpadded := congrArg String.toList hempty
    rw [numbered, String.toList_append, String.toList_ofList] at hpadded
    exact padded_ne_nil _ _ (List.append_eq_nil_iff.1 hpadded).2
  · intro id hid htaken
    obtain ⟨number, hlt, hbound, rfl⟩ := exists_numbered_of_mem_candidates hid
    exact not_inUse_numbered hlt hbound (mem_taken.1 htaken)
  · intro others h
    exact next?_congr s h.sameIds

/-- A schema whose ids end with the digit nine. -/
def ninesSchema : Schema :=
  { (default : Schema) with idPattern := .seq (.set (CharSet.mk [(0x39, 0x39)])) (.look .textEnd) }

/--
Two ids with the number seven: the first one in the order of bytes gives the label, whichever is
listed first.
-/
theorem next?_counts_on_sevens :
    Rearranged ["b-0007", "a-7"] [" a-7", "b-0007"] ∧
      next? ninesSchema ["b-0007", "a-7"] = some "a-0009" ∧
      next? ninesSchema [" a-7", "b-0007"] = some "a-0009" := by
  have hpadded : " a-7".toList = [' '] ++ "a-7".toList ++ [] := rfl
  have hrearranged : Rearranged ["b-0007", "a-7"] [" a-7", "b-0007"] :=
    .both (.swap (.swap ..)) (.pad (by decide) (by simp) hpadded)
  have hnext : next? ninesSchema ["b-0007", "a-7"] = some "a-0009" := by decide +kernel
  obtain ⟨-, -, -, -, -, hsame⟩ := next?_counts_on ninesSchema ["b-0007", "a-7"]
  exact ⟨hrearranged, hnext, (hsame _ hrearranged).trans hnext⟩

end Numbering
end WorkItems
