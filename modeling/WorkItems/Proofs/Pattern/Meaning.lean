import Mathlib.Logic.Function.Iterate
import WorkItems.Pattern
/-!
# What a pattern means

`Pattern.ends` works on sets of places and gives no reason for a match. `Pattern.Fits` is the
reason: which parts of a text a pattern fits, by recursion on the pattern, with the text before the
part and the text behind it for the conditions on a place. A repetition fits what its rounds fit,
one behind the other.

The two agree: a place is among the ends exactly if some part fits that starts at one of the given
places and ends there (`follows_ends`). What has to be shown for this is that the rounds which
`ends` makes are enough. A round that moves nothing can be left out, and the others move through the
text, so there are no more of them than characters.
-/

namespace WorkItems.Pattern

/-- A condition on a part of a text, with the text before it and the text behind it. -/
abbrev Condition := (before part after : List Char) → Prop

/-- One part behind another, which fulfil a condition each. -/
def Behind (first second : Condition) : Condition := fun before part after =>
  ∃ front back, part = front ++ back ∧ first before front (back ++ after) ∧
    second (before ++ front) back after

/-- A number of parts behind one another, which all fulfil a condition. -/
def Rounds (fits : Condition) : Nat → Condition
  | 0 => fun _ part _ => part = []
  | n + 1 => Behind fits (Rounds fits n)

/-- The pattern fits a part of a text. -/
def Fits : Pattern → Condition
  | empty => fun _ part _ => part = []
  | set s => fun _ part _ => ∃ c, part = [c] ∧ s.contains c = true
  | look l => fun before part after => part = [] ∧ l.holds before.getLast? after.head? = true
  | seq p q => Behind p.Fits q.Fits
  | either p q => fun before part after => p.Fits before part after ∨ q.Fits before part after
  | repeated p low high => fun before part after =>
    ∃ n, (∀ h, high = some h → n ≤ h - low) ∧ Rounds p.Fits (low + n) before part after

theorem behind_assoc {first second third : Condition} :
    Behind (Behind first second) third = Behind first (Behind second third) := by
  funext before part after
  refine propext ⟨?_, ?_⟩
  · rintro ⟨_, back, rfl, ⟨front, middle, rfl, hfirst, hsecond⟩, hthird⟩
    rw [← List.append_assoc] at hfirst hthird
    exact ⟨front, middle ++ back, List.append_assoc .., hfirst, middle, back, rfl, hsecond, hthird⟩
  · rintro ⟨front, _, rfl, hfirst, middle, back, rfl, hsecond, hthird⟩
    rw [List.append_assoc] at hfirst hthird
    exact ⟨front ++ middle, back, (List.append_assoc ..).symm,
      ⟨front, middle, rfl, hfirst, hsecond⟩, hthird⟩

/-! ## Parts between two places -/

/-- Some part of the text from the place `i` to the place `j` fulfils a condition. -/
def Spans (text : List Char) (fits : Condition) (i j : Nat) : Prop :=
  ∃ before part after, text = before ++ part ++ after ∧ before.length = i ∧
    before.length + part.length = j ∧ fits before part after

variable {text : List Char} {first second fits : Condition} {i j : Nat}

theorem Spans.le (h : Spans text fits i j) : i ≤ j ∧ j ≤ text.length := by
  obtain ⟨before, part, after, rfl, rfl, rfl, -⟩ := h
  simp only [List.length_append]
  omega

/-- Parts behind one another meet at a place between them. -/
theorem spans_behind :
    Spans text (Behind first second) i j ↔ ∃ m, Spans text first i m ∧ Spans text second m j := by
  constructor
  · rintro ⟨before, _, after, htext, hi, hj, front, back, rfl, hfirst, hsecond⟩
    refine ⟨(before ++ front).length, ⟨before, front, back ++ after, ?_, hi, ?_, hfirst⟩,
      before ++ front, back, after, ?_, rfl, ?_, hsecond⟩
    · simpa using htext
    · simp
    · simpa using htext
    · rw [← hj]
      simp [Nat.add_assoc]
  · rintro ⟨m, ⟨before, front, rest, htext, hi, hm, hfirst⟩, before', back, after, htext', hm', hj,
      hsecond⟩
    obtain ⟨rfl, rfl⟩ : before ++ front = before' ∧ rest = back ++ after := by
      refine List.append_inj ?_ ?_
      · rw [← htext, htext', List.append_assoc]
      · rw [List.length_append, hm, hm']
    refine ⟨before, front ++ back, after, ?_, hi, ?_, front, back, rfl, hfirst, hsecond⟩
    · simpa using htext
    · rw [← hj]
      simp [Nat.add_assoc]

/-- Nothing stands between a place and itself. -/
theorem spans_nil {place : List Char → List Char → Prop} :
    Spans text (fun before part after => part = [] ∧ place before after) i j ↔
      i = j ∧ i ≤ text.length ∧ place (text.take i) (text.drop i) := by
  constructor
  · rintro ⟨before, _, after, rfl, rfl, rfl, rfl, hplace⟩
    simpa using hplace
  · rintro ⟨rfl, hi, hplace⟩
    refine ⟨text.take i, [], text.drop i, ?_, ?_, ?_, rfl, hplace⟩
    · simp
    · exact List.length_take_of_le hi
    · exact List.length_take_of_le hi

theorem spans_empty : Spans text (fun _ part _ => part = []) i j ↔ i = j ∧ i ≤ text.length := by
  have h : Spans text (fun _ part _ => part = [] ∧ True) i j ↔ i = j ∧ i ≤ text.length ∧ True :=
    spans_nil
  simpa only [and_true] using h

/-- A single character stands between a place and the next one. -/
theorem spans_char {s : CharSet} :
    Spans text (fun _ part _ => ∃ c, part = [c] ∧ s.contains c = true) i j ↔
      ∃ c, j = i + 1 ∧ text[i]? = some c ∧ s.contains c = true := by
  constructor
  · rintro ⟨before, _, after, rfl, rfl, rfl, c, rfl, hc⟩
    exact ⟨c, rfl, by simp, hc⟩
  · rintro ⟨c, rfl, hget, hc⟩
    obtain ⟨hi, rfl⟩ := List.getElem?_eq_some_iff.1 hget
    have htake := List.length_take_of_le (Nat.le_of_lt hi)
    refine ⟨text.take i, [text[i]], text.drop (i + 1), ?_, htake, ?_, _, rfl, hc⟩
    · simp
    · rw [htake, List.length_singleton]

theorem spans_rounds_zero : Spans text (Rounds fits 0) i j ↔ i = j ∧ i ≤ text.length := spans_empty

theorem spans_rounds_succ {n : Nat} : Spans text (Rounds fits (n + 1)) i j ↔
    ∃ m, Spans text fits i m ∧ Spans text (Rounds fits n) m j := spans_behind

theorem spans_rounds_add {m n : Nat} : Spans text (Rounds fits (m + n)) i j ↔
    ∃ k, Spans text (Rounds fits m) i k ∧ Spans text (Rounds fits n) k j := by
  induction m generalizing i with
  | zero =>
      rw [Nat.zero_add]
      constructor
      · intro h
        exact ⟨i, spans_rounds_zero.2 ⟨rfl, Nat.le_trans h.le.1 h.le.2⟩, h⟩
      · rintro ⟨k, hk, h⟩
        obtain ⟨rfl, -⟩ := spans_rounds_zero.1 hk
        exact h
  | succ m ih =>
      rw [Nat.succ_add, spans_rounds_succ]
      constructor
      · rintro ⟨a, ha, h⟩
        obtain ⟨k, hk, h⟩ := ih.1 h
        exact ⟨k, spans_rounds_succ.2 ⟨a, ha, hk⟩, h⟩
      · rintro ⟨k, hk, h⟩
        obtain ⟨a, ha, hk⟩ := spans_rounds_succ.1 hk
        exact ⟨a, ha, ih.2 ⟨k, hk, h⟩⟩

/-- Rounds that do not move can be left out, so there need not be more of them than characters. -/
theorem exists_rounds_le {n : Nat} (h : Spans text (Rounds fits n) i j) :
    ∃ k ≤ j - i, Spans text (Rounds fits k) i j := by
  induction n generalizing i with
  | zero => exact ⟨0, Nat.zero_le _, h⟩
  | succ n ih =>
      obtain ⟨m, hm, hrest⟩ := spans_rounds_succ.1 h
      obtain ⟨k, hk, hrounds⟩ := ih hrest
      obtain ⟨him, -⟩ := hm.le
      rcases Nat.eq_or_lt_of_le him with rfl | hlt
      · exact ⟨k, hk, hrounds⟩
      · obtain ⟨hmj, -⟩ := hrest.le
        exact ⟨k + 1, by omega, spans_rounds_succ.2 ⟨m, hm, hrounds⟩⟩

/-! ## Sets of places -/

/-- All places of a set are places of the text. -/
def AreIn (text : List Char) (places : Nat) : Prop := ∀ i, places.testBit i = true → i ≤ text.length

/-- A map of sets of places goes along a relation between places of the text. -/
structure Follows (text : List Char) (goes : Nat → Nat → Prop) (f : Nat → Nat) : Prop where
  le : ∀ {i j}, i ≤ text.length → goes i j → j ≤ text.length
  testBit : ∀ {places}, AreIn text places → ∀ {j}, (f places).testBit j = true ↔
    ∃ i, places.testBit i = true ∧ goes i j

variable {goes next : Nat → Nat → Prop} {places : Nat} {f g : Nat → Nat}

theorem Follows.areIn (h : Follows text goes f) (hplaces : AreIn text places) :
    AreIn text (f places) := by
  intro j hj
  obtain ⟨i, hi, hgoes⟩ := (h.testBit hplaces).1 hj
  exact h.le (hplaces i hi) hgoes

theorem Follows.congr (h : Follows text goes f) (hgoes : ∀ i j, goes i j ↔ next i j) :
    Follows text next f := by
  obtain rfl : goes = next := funext fun i => funext fun j => propext (hgoes i j)
  exact h

theorem follows_id : Follows text (fun i j => i = j ∧ i ≤ text.length) id where
  le := by
    rintro i j hi ⟨rfl, -⟩
    exact hi
  testBit := by
    intro places hplaces j
    constructor
    · intro hj
      exact ⟨j, hj, rfl, hplaces j hj⟩
    · rintro ⟨i, hi, rfl, -⟩
      exact hi

theorem Follows.then (hf : Follows text goes f) (hg : Follows text next g) :
    Follows text (fun i j => ∃ m, goes i m ∧ next m j) fun places => g (f places) where
  le := by
    rintro i j hi ⟨m, hm, hj⟩
    exact hg.le (hf.le hi hm) hj
  testBit := by
    intro places hplaces j
    rw [hg.testBit (hf.areIn hplaces)]
    constructor
    · rintro ⟨m, hm, hj⟩
      obtain ⟨i, hi, him⟩ := (hf.testBit hplaces).1 hm
      exact ⟨i, hi, m, him, hj⟩
    · rintro ⟨i, hi, m, him, hj⟩
      exact ⟨m, (hf.testBit hplaces).2 ⟨i, hi, him⟩, hj⟩

theorem Follows.or (hf : Follows text goes f) (hg : Follows text next g) :
    Follows text (fun i j => goes i j ∨ next i j) fun places => f places ||| g places where
  le := by
    rintro i j hi (hj | hj)
    · exact hf.le hi hj
    · exact hg.le hi hj
  testBit := by
    intro places hplaces j
    rw [Nat.testBit_or, Bool.or_eq_true, hf.testBit hplaces, hg.testBit hplaces, ← exists_or]
    exact exists_congr fun i => and_or_left.symm

/-! ## Characters and conditions on places -/

theorem testBit_toNat (b : Bool) (i : Nat) : b.toNat.testBit i = (b && i == 0) := by
  cases b <;> cases i <;> simp [Nat.testBit_succ]

theorem testBit_toNat_add (b : Bool) (n i : Nat) :
    (b.toNat + 2 * n).testBit i = if i = 0 then b else n.testBit (i - 1) := by
  cases i with
  | zero => cases b <;> simp [Nat.testBit_zero]
  | succ i =>
      have hhalf : (b.toNat + 2 * n) / 2 = n := by
        cases b <;> simp only [Bool.toNat_false, Bool.toNat_true] <;> omega
      rw [Nat.testBit_succ, hhalf]
      rfl

theorem testBit_placesOf {s : CharSet} {cs : List Char} {i : Nat} :
    (placesOf s cs).testBit i = true ↔ ∃ c, cs[i]? = some c ∧ s.contains c = true := by
  induction cs generalizing i with
  | nil => simp [placesOf]
  | cons c cs ih =>
      rw [placesOf, testBit_toNat_add]
      cases i with
      | zero => simp
      | succ i => simp [ih]

theorem testBit_placesWhere {l : Look} {before : Option Char} {cs : List Char} {i : Nat} :
    (placesWhere l before cs).testBit i = true ↔
      i ≤ cs.length ∧ l.holds ((cs.take i).getLast?.or before) (cs.drop i).head? = true := by
  induction cs generalizing before i with
  | nil =>
      rw [placesWhere, testBit_toNat]
      cases i with
      | zero => simp
      | succ i => simp
  | cons c cs ih =>
      rw [placesWhere, testBit_toNat_add]
      cases i with
      | zero => simp
      | succ i =>
          have hbefore : (cs.take i).getLast?.or (some c) =
              ((c :: cs).take (i + 1)).getLast?.or before := by
            rw [List.take_succ_cons, List.getLast?_cons]
            cases (cs.take i).getLast? <;> rfl
          rw [if_neg (Nat.succ_ne_zero i), Nat.add_sub_cancel, ih, hbefore, List.length_cons,
            Nat.add_le_add_iff_right, List.drop_succ_cons]

theorem follows_set (s : CharSet) :
    Follows text (Spans text (Fits (.set s))) fun places => (places &&& placesOf s text) <<< 1 where
  le _ h := h.le.2
  testBit := by
    intro places _ j
    simp only [Fits, spans_char, Nat.testBit_shiftLeft, Nat.testBit_and, Bool.and_eq_true,
      decide_eq_true_eq, testBit_placesOf]
    constructor
    · rintro ⟨hj, hi, c, hget, hc⟩
      exact ⟨j - 1, hi, c, by omega, hget, hc⟩
    · rintro ⟨i, hi, c, rfl, hget, hc⟩
      exact ⟨Nat.le_add_left 1 i, hi, c, hget, hc⟩

theorem follows_look (l : Look) :
    Follows text (Spans text (Fits (.look l))) fun places => places &&&
      placesWhere l none text where
  le _ h := h.le.2
  testBit := by
    intro places _ j
    have hspans : ∀ i, Spans text (Fits (.look l)) i j ↔
        i = j ∧ i ≤ text.length ∧ l.holds (text.take i).getLast? (text.drop i).head? = true :=
      fun i => spans_nil
    simp only [hspans, Nat.testBit_and, Bool.and_eq_true, testBit_placesWhere, Option.or_none]
    constructor
    · rintro ⟨hj, hle, hholds⟩
      exact ⟨j, hj, rfl, hle, hholds⟩
    · rintro ⟨i, hi, rfl, hle, hholds⟩
      exact ⟨hi, hle, hholds⟩

/-! ## Repetitions -/

/-- Coming to rest early changes nothing. -/
theorem iterate_eq (f : Nat → Nat) (n places : Nat) : iterate f n places = f^[n] places := by
  induction n generalizing places with
  | zero => rfl
  | succ n ih =>
      rw [iterate]
      split
      · rename_i hrest
        exact (Function.iterate_fixed hrest (n + 1)).symm
      · rw [ih, Function.iterate_succ_apply]

theorem follows_rounds (hf : Follows text (Spans text fits) f) (n : Nat) :
    Follows text (Spans text (Rounds fits n)) (iterate f n) := by
  rw [funext (iterate_eq f n)]
  induction n with
  | zero => exact follows_id.congr fun i j => spans_rounds_zero.symm
  | succ n ih =>
      rw [Function.iterate_succ]
      exact (hf.then ih).congr fun i j => spans_rounds_succ.symm

/--
Places that are kept beside those that are reached are the ends of any number of rounds up to `n`.
-/
theorem follows_gathered (hf : Follows text (Spans text fits) f) (n : Nat) :
    Follows text (fun i j => ∃ k ≤ n, Spans text (Rounds fits k) i j)
      (iterate (fun places => places ||| f places) n) := by
  rw [funext (iterate_eq _ n)]
  induction n with
  | zero => exact follows_id.congr fun i j => by simp [spans_rounds_zero]
  | succ n ih =>
      rw [Function.iterate_succ]
      refine ((follows_id.or hf).then ih).congr fun i j => ?_
      constructor
      · rintro ⟨m, ⟨rfl, -⟩ | hfirst, k, hk, hrounds⟩
        · exact ⟨k, Nat.le_succ_of_le hk, hrounds⟩
        · exact ⟨k + 1, Nat.succ_le_succ hk, spans_rounds_succ.2 ⟨m, hfirst, hrounds⟩⟩
      · rintro ⟨k, hk, hrounds⟩
        cases k with
        | zero =>
            have hi := Nat.le_trans hrounds.le.1 hrounds.le.2
            exact ⟨i, .inl ⟨rfl, hi⟩, 0, Nat.zero_le n, hrounds⟩
        | succ k =>
            obtain ⟨m, hfirst, hrounds⟩ := spans_rounds_succ.1 hrounds
            exact ⟨m, .inr hfirst, k, Nat.le_of_succ_le_succ hk, hrounds⟩

theorem spans_repeated {p : Pattern} {low : Nat} {high : Option Nat} :
    Spans text (Fits (.repeated p low high)) i j ↔ ∃ m, Spans text (Rounds p.Fits low) i m ∧
      ∃ n, (∀ h, high = some h → n ≤ h - low) ∧ Spans text (Rounds p.Fits n) m j := by
  constructor
  · rintro ⟨before, part, after, htext, hi, hj, n, hn, hrounds⟩
    obtain ⟨m, hlow, hrest⟩ := spans_rounds_add.1 ⟨before, part, after, htext, hi, hj, hrounds⟩
    exact ⟨m, hlow, n, hn, hrest⟩
  · rintro ⟨m, hlow, n, hn, hrest⟩
    obtain ⟨before, part, after, htext, hi, hj, hrounds⟩ := spans_rounds_add.2 ⟨m, hlow, hrest⟩
    exact ⟨before, part, after, htext, hi, hj, n, hn, hrounds⟩

/-- A round for every character, and one more, are as good as any number of them. -/
theorem exists_rounds_iff :
    (∃ n ≤ text.length + 1, Spans text (Rounds fits n) i j) ↔
    ∃ n, Spans text (Rounds fits n) i j := by
  constructor
  · rintro ⟨n, -, hrounds⟩
    exact ⟨n, hrounds⟩
  · rintro ⟨n, hrounds⟩
    obtain ⟨k, hk, hrounds⟩ := exists_rounds_le hrounds
    obtain ⟨-, hj⟩ := hrounds.le
    exact ⟨k, by omega, hrounds⟩

/-! ## Matches -/

/-- The ends of a pattern are those of the parts that it fits. -/
theorem follows_ends (p : Pattern) : Follows text (Spans text p.Fits) (ends text p) := by
  induction p with
  | empty => exact follows_id.congr fun i j => spans_empty.symm
  | set s => exact follows_set s
  | look l => exact follows_look l
  | seq p q ihp ihq => exact (ihp.then ihq).congr fun i j => spans_behind.symm
  | either p q ihp ihq =>
      refine (ihp.or ihq).congr fun i j => ?_
      constructor
      · rintro (⟨before, part, after, htext, hi, hj, h⟩ | ⟨before, part, after, htext, hi, hj, h⟩)
        · exact ⟨before, part, after, htext, hi, hj, .inl h⟩
        · exact ⟨before, part, after, htext, hi, hj, .inr h⟩
      · rintro ⟨before, part, after, htext, hi, hj, h | h⟩
        · exact .inl ⟨before, part, after, htext, hi, hj, h⟩
        · exact .inr ⟨before, part, after, htext, hi, hj, h⟩
  | repeated p low high ih =>
      refine ((follows_rounds ih low).then (follows_gathered ih _)).congr fun i j => ?_
      rw [spans_repeated]
      refine exists_congr fun m => and_congr_right fun _ => ?_
      cases high with
      | none => simp [exists_rounds_iff]
      | some high => simp

theorem testBit_allPlaces {i : Nat} : (allPlaces text).testBit i = true ↔ i ≤ text.length := by
  rw [allPlaces, Nat.testBit_two_pow_sub_one, decide_eq_true_eq, Nat.lt_succ_iff]

/-- A pattern occurs in a text exactly if it fits some part of it. -/
theorem occursIn_iff {p : Pattern} {s : String} :
    p.occursIn s = true ↔ ∃ before part after, s.toList = before ++ part ++ after ∧
      p.Fits before part after := by
  have hplaces : AreIn s.toList (allPlaces s.toList) := fun i => testBit_allPlaces.1
  rw [occursIn, bne_iff_ne]
  constructor
  · intro hne
    obtain ⟨j, hj⟩ := Nat.exists_testBit_of_ne_zero hne
    obtain ⟨i, -, before, part, after, htext, -, -, hfits⟩ :=
      ((follows_ends p).testBit hplaces).1 hj
    exact ⟨before, part, after, htext, hfits⟩
  · rintro ⟨before, part, after, htext, hfits⟩ hzero
    have hspans : Spans s.toList p.Fits before.length (before.length + part.length) :=
      ⟨before, part, after, htext, rfl, rfl, hfits⟩
    have hstart := Nat.le_trans hspans.le.1 hspans.le.2
    have hend := ((follows_ends p).testBit hplaces).2 ⟨_, testBit_allPlaces.2 hstart, hspans⟩
    rw [hzero, Nat.zero_testBit] at hend
    cases hend

/-! ## Patterns that do not look around -/

variable {before part after : List Char} {p : Pattern} {low : Nat}

/-- What is repeated once at most is there or not. -/
theorem fits_optional :
    Fits (.repeated p 0 (some 1)) before part after ↔ part = [] ∨ p.Fits before part after := by
  constructor
  · rintro ⟨n, hn, hrounds⟩
    rw [Nat.zero_add] at hrounds
    match n, hn 1 rfl with
    | 0, _ => exact .inl hrounds
    | 1, _ =>
        obtain ⟨front, _, rfl, hfits, rfl⟩ := hrounds
        rw [List.append_nil]
        exact .inr hfits
  · rintro (rfl | hfits)
    · exact ⟨0, fun _ _ => Nat.zero_le _, rfl⟩
    · refine ⟨1, fun h hh => ?_, part, [], (List.append_nil part).symm, hfits, rfl⟩
      exact Nat.le_of_eq (Option.some.inj hh)

/-- Parts that a pattern fits whatever stands around them are repeated as a list of such parts. -/
theorem fits_repeated {language : List Char → Prop}
    (h : ∀ before part after, p.Fits before part after ↔ language part) :
    Fits (.repeated p low none) before part after ↔
      ∃ parts : List (List Char), part = parts.flatten ∧ low ≤ parts.length ∧ ∀ q ∈ parts,
        language q := by
  have hrounds : ∀ {n before part}, Rounds p.Fits n before part after ↔
      ∃ parts : List (List Char), part = parts.flatten ∧ parts.length = n ∧ ∀ q ∈ parts,
      language q := by
    intro n
    induction n with
    | zero =>
        intro before part
        constructor
        · rintro rfl
          exact ⟨[], rfl, rfl, List.forall_mem_nil _⟩
        · rintro ⟨parts, rfl, hlength, -⟩
          rw [List.length_eq_zero_iff.1 hlength]
          rfl
    | succ n ih =>
        intro before part
        constructor
        · rintro ⟨front, back, rfl, hfits, hback⟩
          obtain ⟨parts, rfl, rfl, hparts⟩ := ih.1 hback
          exact ⟨front :: parts, rfl, rfl, List.forall_mem_cons.2 ⟨(h ..).1 hfits, hparts⟩⟩
        · rintro ⟨parts, rfl, hlength, hparts⟩
          obtain ⟨front, parts, rfl⟩ := List.exists_cons_of_length_eq_add_one hlength
          obtain ⟨hfront, hparts⟩ := List.forall_mem_cons.1 hparts
          exact ⟨front, parts.flatten, rfl, (h ..).2 hfront,
            ih.2 ⟨parts, rfl, Nat.succ.inj hlength, hparts⟩⟩
  constructor
  · rintro ⟨n, -, hn⟩
    obtain ⟨parts, hpart, hlength, hparts⟩ := hrounds.1 hn
    exact ⟨parts, hpart, by omega, hparts⟩
  · rintro ⟨parts, hpart, hlength, hparts⟩
    have hcount : low + (parts.length - low) = parts.length := Nat.add_sub_cancel' hlength
    exact ⟨parts.length - low, (fun _ h => nomatch h),
      hrounds.2 ⟨parts, hpart, hcount.symm, hparts⟩⟩

/-- A repeated set fits the texts of its characters. -/
theorem fits_repeated_set {s : CharSet} :
    Fits (.repeated (.set s) low none) before part after ↔
      low ≤ part.length ∧ ∀ c ∈ part, s.contains c = true := by
  have hset : ∀ before part after, Fits (.set s) before part after ↔
      ∃ c, part = [c] ∧ s.contains c = true :=
    fun _ _ _ => Iff.rfl
  rw [fits_repeated hset]
  constructor
  · rintro ⟨parts, rfl, hlow, hparts⟩
    have hone : ∀ q ∈ parts, q.length = 1 := by
      intro q hq
      obtain ⟨c, rfl, -⟩ := hparts q hq
      rfl
    have hlength : parts.flatten.length = parts.length := by
      rw [List.length_flatten, List.map_congr_left hone, List.map_const', List.sum_replicate_nat,
        Nat.mul_one]
    refine ⟨hlength ▸ hlow, fun c hc => ?_⟩
    obtain ⟨q, hq, hc⟩ := List.mem_flatten.1 hc
    obtain ⟨d, rfl, hd⟩ := hparts q hq
    rwa [List.mem_singleton.1 hc]
  · rintro ⟨hlow, hpart⟩
    refine ⟨part.map fun c => [c], ?_, ?_, ?_⟩
    · rw [← List.flatMap_def, List.flatMap_singleton']
    · rwa [List.length_map]
    · rintro _ hq
      obtain ⟨c, hc, rfl⟩ := List.mem_map.1 hq
      exact ⟨c, rfl, hpart c hc⟩

end WorkItems.Pattern
