import WorkItems.FrontMatter.Reader
import WorkItems.Proofs.Dict
import WorkItems.Proofs.Value
import WorkItems.Proofs.Yaml.Meaning
import WorkItems.Proofs.Yaml.PrintedStrings
/-!
# Values and the nodes that stand for them

Which tokens stand for a value, however they were written. Values are written in two ways, on one
line and in block style, and both are lists of lists, so there is a predicate for the tokens of a
value (`Denotes`) and one for each kind of list of tokens that may be left of a collection.
-/

namespace WorkItems

namespace FrontMatter

open Yaml

/-! ## From data back to values -/

mutual

theorem ofData_toData : ∀ {v : Value}, v.Ordered → ofData (toData v) = v
  | .null, _ => rfl
  | .bool _, _ => rfl
  | .number _, _ => rfl
  | .string _, _ => rfl
  | .sequence items, h => by
      rw [toData, ofData, ofDataItems_toDataItems h]
  | .mapping entries, h => by
      rw [toData, ofData, ofDataEntries_toDataEntries h.2, Entries.ofList_of_sorted h.1]

theorem ofDataItems_toDataItems :
    ∀ {vs : List Value}, Value.OrderedItems vs → ofDataItems (toDataItems vs) = vs
  | [], _ => rfl
  | v :: vs, h => by
      rw [toDataItems, ofDataItems, ofData_toData h.1, ofDataItems_toDataItems h.2]

theorem ofDataEntries_toDataEntries :
    ∀ {es : List (String × Value)}, Value.OrderedEntries es →
      ofDataEntries (toDataEntries es) = es
  | [], _ => rfl
  | (k, v) :: es, h => by
      rw [toDataEntries, ofDataEntries, ofData_toData h.1, ofDataEntries_toDataEntries h.2]
      rfl

end

/-! ## Tokens of a value -/

/-- A node stands for a value, if it may nest as deep as the value does. -/
def Means (n : Node) (v : Value) : Prop :=
  ∀ depth, v.nesting ≤ depth → Says depth n (toData v)

def MeansItems (ns : List Node) (vs : List Value) : Prop :=
  ∀ depth, Value.nestingItems vs ≤ depth → SaysItems depth ns (toDataItems vs)

/-- The entries must not come again, and none of the keys `seen`. -/
def MeansEntries (seen : List String) (es : List (Node × Node)) (vs : List (String × Value)) :
    Prop :=
  ∀ depth, Value.nestingEntries vs ≤ depth → SaysEntries depth seen es (toDataEntries vs)

/-- Tokens that stand for a value. -/
def Denotes (place : Place) (ts : List Token) (v : Value) : Prop :=
  ∃ n, Parses place ts n ∧ Means n v

section Means

variable {place : Place} {ts : List Token} {n k : Node} {ns : List Node} {v : Value}
  {vs : List Value}

theorem means_quoted {style : Style} {s : String} (h : style ≠ .plain) :
    Means (.scalar .none style s) (.string s) := fun _ _ => says_quoted h

theorem means_plain {s : String} (h : (resolve s.toList).data? s = some (toData v)) :
    Means (.scalar .none .plain s) v := fun _ _ => says_plain h

theorem denotes_scalar {style : Style} {s : String} (h : Means (.scalar .none style s) v) :
    Denotes place [.scalar s style] v := ⟨_, parses_scalar .., h⟩

theorem meansItems_nil : MeansItems [] [] := fun _ _ => saysItems_nil

theorem MeansItems.cons (h : Means n v) (hs : MeansItems ns vs) :
    MeansItems (n :: ns) (v :: vs) := by
  intro depth hdepth
  rw [Value.nestingItems] at hdepth
  exact SaysItems.cons (h depth (by omega)) (hs depth (by omega))

theorem MeansItems.sequence (h : MeansItems ns vs) : Means (.sequence .none ns) (.sequence vs) := by
  intro depth hdepth
  obtain ⟨depth, rfl⟩ : ∃ m, depth = m + 1 := ⟨depth - 1, by rw [Value.nesting] at hdepth; omega⟩
  rw [Value.nesting] at hdepth
  exact says_sequence (h depth (by omega))

theorem meansEntries_nil {seen : List String} : MeansEntries seen [] [] :=
  fun _ _ => saysEntries_nil

theorem MeansEntries.cons {seen : List String} {s : String} {es : List (Node × Node)}
    {vs : List (String × Value)} (hk : Means k (.string s)) (hv : Means n v) (hseen : s ∉ seen)
    (hs : MeansEntries (s :: seen) es vs) : MeansEntries seen ((k, n) :: es) ((s, v) :: vs) := by
  intro depth hdepth
  rw [Value.nestingEntries] at hdepth
  exact .cons (hk depth (Nat.zero_le _)) (hv depth (by omega)) hseen (hs depth (by omega))

theorem MeansEntries.mapping {es : List (Node × Node)} {vs : List (String × Value)}
    (h : MeansEntries [] es vs) : Means (.mapping .none es) (.mapping vs) := by
  intro depth hdepth
  obtain ⟨depth, rfl⟩ : ∃ m, depth = m + 1 := ⟨depth - 1, by rw [Value.nesting] at hdepth; omega⟩
  rw [Value.nesting] at hdepth
  exact says_mapping (h depth (by omega))

end Means

/-! ## Scalars and empty collections -/

/-- A text that is read as the number, as a plain scalar in any place. -/
structure NumberReads (text : String) (n : Number) : Prop where
  scalar : IsPlainScalar true text.toList
  printable : ∀ c ∈ text.toList, isPrintable c = true
  resolves : resolve text.toList = .number n

theorem means_string {style : Style} {s : String} (h : ReadsAsString style s.toList) :
    Means (.scalar .none style s) (.string s) := by
  by_cases hstyle : style = .plain
  · have hresolve := h.resolve_left fun hne => hne hstyle
    rw [hstyle]
    exact means_plain (by rw [hresolve]; rfl)
  · exact means_quoted hstyle

theorem denotes_emptySequence (place : Place) :
    Denotes place [.flowSequenceStart, .flowSequenceEnd] (.sequence []) :=
  ⟨_, parses_emptyFlowSequence place, meansItems_nil.sequence⟩

theorem denotes_emptyMapping (place : Place) :
    Denotes place [.flowMappingStart, .flowMappingEnd] (.mapping []) :=
  ⟨_, parses_emptyFlowMapping place, meansEntries_nil.mapping⟩

/-! ## Keys that ascend -/

/-- Keys that ascend do not come again. -/
structure Fresh (seen : List String) (vs : List (String × Value)) : Prop where
  sorted : Entries.Sorted vs
  new : ∀ s ∈ seen, ∀ e ∈ vs, e.1 ≠ s

theorem fresh_nil {vs : List (String × Value)} (h : Entries.Sorted vs) : Fresh [] vs :=
  ⟨h, by simp⟩

theorem Fresh.tail {seen : List String} {s : String} {v : Value} {vs : List (String × Value)}
    (h : Fresh seen ((s, v) :: vs)) : s ∉ seen ∧ Fresh (s :: seen) vs := by
  obtain ⟨hhead, hsorted⟩ := List.pairwise_cons.1 h.sorted
  refine ⟨fun hs => h.new s hs _ (List.mem_cons_self ..) rfl, hsorted, fun t ht e he => ?_⟩
  rcases List.mem_cons.1 ht with rfl | ht
  · intro heq
    exact String.lt_irrefl _ (heq ▸ hhead e he)
  · exact h.new t ht e (List.mem_cons_of_mem _ he)

end FrontMatter
end WorkItems
