import WorkItems.Value
/-!
# Parts of values

How deep a value nests, and what holds of all texts, keys and numbers inside of it.
-/

namespace WorkItems

/-- The integer that a number is, whichever of the two kinds it has. -/
def Number.integer? : Number → Option Int
  | int i => some i.toInt
  | uint u => some u.toNat
  | float _ => none

namespace Value

theorem eq_string_of_string? {v : Value} {s : String} (h : v.string? = some s) : v = .string s := by
  cases v with
  | string t => exact congrArg string (Option.some.inj h)
  | _ => cases h

/-! ## Nesting -/

mutual

/-- How deep collections nest in a value. -/
def nesting : Value → Nat
  | sequence items => nestingItems items + 1
  | mapping entries => nestingEntries entries + 1
  | _ => 0

def nestingItems : List Value → Nat
  | [] => 0
  | v :: vs => max v.nesting (nestingItems vs)

def nestingEntries : List (String × Value) → Nat
  | [] => 0
  | (_, v) :: es => max v.nesting (nestingEntries es)

end

theorem nestingItems_le {n : Nat} {vs : List Value} (h : ∀ v ∈ vs, v.nesting ≤ n) :
    nestingItems vs ≤ n := by
  induction vs with
  | nil => exact Nat.zero_le _
  | cons v vs ih =>
      exact Nat.max_le.2
        ⟨h v (List.mem_cons_self ..), ih fun w hw => h w (List.mem_cons_of_mem _ hw)⟩

theorem nestingEntries_le {n : Nat} {es : List (String × Value)} (h : ∀ e ∈ es, e.2.nesting ≤ n) :
    nestingEntries es ≤ n := by
  induction es with
  | nil => exact Nat.zero_le _
  | cons e es ih =>
      exact Nat.max_le.2
        ⟨h e (List.mem_cons_self ..), ih fun f hf => h f (List.mem_cons_of_mem _ hf)⟩

/-! ## Order of keys -/

theorem orderedItems_iff {vs : List Value} : OrderedItems vs ↔ ∀ v ∈ vs, v.Ordered := by
  induction vs with
  | nil => simp [OrderedItems]
  | cons v vs ih => rw [OrderedItems, ih, List.forall_mem_cons]

theorem orderedEntries_iff {es : List (String × Value)} :
    OrderedEntries es ↔ ∀ e ∈ es, e.2.Ordered := by
  induction es with
  | nil => simp [OrderedEntries]
  | cons e es ih => rw [OrderedEntries, ih, List.forall_mem_cons]

/-! ## What holds of all parts of a value -/

/-- Conditions on the texts, the keys and the numbers inside of a value. -/
structure Condition where
  text : String → Prop
  key : String → Prop
  number : Number → Prop

mutual

/-- The parts of a value fulfil a condition. -/
def Fulfils (c : Condition) : Value → Prop
  | string s => c.text s
  | number n => c.number n
  | sequence items => FulfilsItems c items
  | mapping entries => FulfilsEntries c entries
  | _ => True

def FulfilsItems (c : Condition) : List Value → Prop
  | [] => True
  | v :: vs => v.Fulfils c ∧ FulfilsItems c vs

def FulfilsEntries (c : Condition) : List (String × Value) → Prop
  | [] => True
  | (k, v) :: es => c.key k ∧ v.Fulfils c ∧ FulfilsEntries c es

end

section Fulfils

variable {c d : Condition}

theorem fulfilsItems_iff {vs : List Value} : FulfilsItems c vs ↔ ∀ v ∈ vs, v.Fulfils c := by
  induction vs with
  | nil => simp [FulfilsItems]
  | cons v vs ih => rw [FulfilsItems, ih, List.forall_mem_cons]

theorem fulfilsEntries_iff {es : List (String × Value)} :
    FulfilsEntries c es ↔ ∀ e ∈ es, c.key e.1 ∧ e.2.Fulfils c := by
  induction es with
  | nil => simp [FulfilsEntries]
  | cons e es ih => rw [FulfilsEntries, ih, List.forall_mem_cons, and_assoc]

mutual

theorem Fulfils.imp (htext : ∀ s, c.text s → d.text s) (hkey : ∀ s, c.key s → d.key s)
    (hnumber : ∀ n, c.number n → d.number n) : ∀ {v : Value}, v.Fulfils c → v.Fulfils d
  | null, _ => trivial
  | bool _, _ => trivial
  | number n, h => hnumber n h
  | string s, h => htext s h
  | sequence _, h => FulfilsItems.imp htext hkey hnumber h
  | mapping _, h => FulfilsEntries.imp htext hkey hnumber h

theorem FulfilsItems.imp (htext : ∀ s, c.text s → d.text s) (hkey : ∀ s, c.key s → d.key s)
    (hnumber : ∀ n, c.number n → d.number n) :
    ∀ {vs : List Value}, FulfilsItems c vs → FulfilsItems d vs
  | [], _ => trivial
  | _ :: _, h => ⟨h.1.imp htext hkey hnumber, FulfilsItems.imp htext hkey hnumber h.2⟩

theorem FulfilsEntries.imp (htext : ∀ s, c.text s → d.text s) (hkey : ∀ s, c.key s → d.key s)
    (hnumber : ∀ n, c.number n → d.number n) :
    ∀ {es : List (String × Value)}, FulfilsEntries c es → FulfilsEntries d es
  | [], _ => trivial
  | (s, _) :: _, h =>
      ⟨hkey s h.1, h.2.1.imp htext hkey hnumber, FulfilsEntries.imp htext hkey hnumber h.2.2⟩

end

/-- Both of two conditions. -/
def Condition.and (c d : Condition) : Condition where
  text s := c.text s ∧ d.text s
  key s := c.key s ∧ d.key s
  number n := c.number n ∧ d.number n

mutual

theorem Fulfils.and : ∀ {v : Value}, v.Fulfils c → v.Fulfils d → v.Fulfils (c.and d)
  | null, _, _ => trivial
  | bool _, _, _ => trivial
  | number _, h, h' => ⟨h, h'⟩
  | string _, h, h' => ⟨h, h'⟩
  | sequence _, h, h' => FulfilsItems.and h h'
  | mapping _, h, h' => FulfilsEntries.and h h'

theorem FulfilsItems.and :
    ∀ {vs : List Value}, FulfilsItems c vs → FulfilsItems d vs → FulfilsItems (c.and d) vs
  | [], _, _ => trivial
  | _ :: _, h, h' => ⟨h.1.and h'.1, FulfilsItems.and h.2 h'.2⟩

theorem FulfilsEntries.and : ∀ {es : List (String × Value)},
    FulfilsEntries c es → FulfilsEntries d es → FulfilsEntries (c.and d) es
  | [], _, _ => trivial
  | _ :: _, h, h' => ⟨⟨h.1, h'.1⟩, h.2.1.and h'.2.1, FulfilsEntries.and h.2.2 h'.2.2⟩

end

mutual

theorem fulfils_of_forall (htext : ∀ s, c.text s) (hkey : ∀ s, c.key s)
    (hnumber : ∀ n, c.number n) : ∀ v : Value, v.Fulfils c
  | null => trivial
  | bool _ => trivial
  | number n => hnumber n
  | string s => htext s
  | sequence items => fulfilsItems_of_forall htext hkey hnumber items
  | mapping entries => fulfilsEntries_of_forall htext hkey hnumber entries

theorem fulfilsItems_of_forall (htext : ∀ s, c.text s) (hkey : ∀ s, c.key s)
    (hnumber : ∀ n, c.number n) : ∀ vs : List Value, FulfilsItems c vs
  | [] => trivial
  | v :: vs =>
      ⟨fulfils_of_forall htext hkey hnumber v, fulfilsItems_of_forall htext hkey hnumber vs⟩

theorem fulfilsEntries_of_forall (htext : ∀ s, c.text s) (hkey : ∀ s, c.key s)
    (hnumber : ∀ n, c.number n) : ∀ es : List (String × Value), FulfilsEntries c es
  | [] => trivial
  | (s, v) :: es =>
      ⟨hkey s, fulfils_of_forall htext hkey hnumber v,
        fulfilsEntries_of_forall htext hkey hnumber es⟩

end

end Fulfils

end Value

end WorkItems
