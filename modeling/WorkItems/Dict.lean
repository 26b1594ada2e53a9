/-!
# Dictionaries in key order

A `Dict` maps texts to values and lists its entries in ascending order of the keys, which is the
order of their code points and so of their bytes in UTF-8. The order is part of the type: two
dictionaries with the same entries are equal, and whatever is written from one comes out in one
order.

The operations are defined on plain lists of entries first (`Entries`), because nested values hold
such lists without the proof.
-/

namespace WorkItems

/-- Entries of a dictionary. -/
abbrev Entries (α : Type) := List (String × α)

namespace Entries

variable {α : Type}

/-- The keys ascend. -/
def Sorted (es : Entries α) : Prop := es.Pairwise fun a b => a.1 < b.1

/-- The value under a key. -/
def find? (key : String) : Entries α → Option α
  | [] => none
  | (k, v) :: es => if k = key then some v else find? key es

/-- Puts a value under a key, in place of the one that is there. -/
def insert (key : String) (value : α) : Entries α → Entries α
  | [] => [(key, value)]
  | (k, v) :: es =>
    if key < k then (key, value) :: (k, v) :: es
    else if key = k then (key, value) :: es
    else (k, v) :: insert key value es

/-- Inserts one after the other, so that the last value of a key stays. -/
def ofList (es : List (String × α)) : Entries α :=
  es.foldl (fun acc e => insert e.1 e.2 acc) []

theorem lt_of_not_lt_of_ne {a b : String} (h : ¬a < b) (hne : a ≠ b) : b < a := by
  rcases String.le_total a b with hab | hba
  · exact absurd (String.le_antisymm hab (String.not_lt.mp h)) hne
  · exact Decidable.byContradiction fun hlt => hne (String.le_antisymm (String.not_lt.mp hlt) hba)

theorem mem_insert {key : String} {value : α} {es : Entries α} {e : String × α}
    (h : e ∈ insert key value es) : e = (key, value) ∨ e ∈ es := by
  induction es with
  | nil => simpa [insert] using h
  | cons x es ih =>
    obtain ⟨k, v⟩ := x
    rw [insert] at h
    split at h
    · simpa using h
    · split at h
      · rcases List.mem_cons.1 h with h | h
        · exact .inl h
        · exact .inr (List.mem_cons_of_mem _ h)
      · rcases List.mem_cons.1 h with h | h
        · exact .inr (h ▸ List.mem_cons_self ..)
        · exact (ih h).imp_right (List.mem_cons_of_mem _)

theorem Sorted.insert {key : String} {value : α} {es : Entries α} (h : Sorted es) :
    Sorted (insert key value es) := by
  induction es with
  | nil => simp [Entries.insert, Sorted]
  | cons x es ih =>
    obtain ⟨k, v⟩ := x
    have hx := (List.pairwise_cons.1 h).1
    have hes := (List.pairwise_cons.1 h).2
    rw [Entries.insert]
    split
    · rename_i hlt
      refine List.pairwise_cons.2 ⟨fun e he => ?_, h⟩
      rcases List.mem_cons.1 he with he | he
      · exact he ▸ hlt
      · exact String.lt_trans hlt (hx e he)
    · rename_i hlt
      split
      · rename_i heq
        subst heq
        exact List.pairwise_cons.2 ⟨hx, hes⟩
      · rename_i hne
        refine List.pairwise_cons.2 ⟨fun e he => ?_, ih hes⟩
        rcases mem_insert he with he | he
        · exact he ▸ lt_of_not_lt_of_ne hlt hne
        · exact hx e he

theorem sorted_ofList (es : List (String × α)) : Sorted (ofList es) := by
  suffices h : ∀ acc : Entries α, Sorted acc →
      Sorted (es.foldl (fun acc e => Entries.insert e.1 e.2 acc) acc) from
    h [] List.Pairwise.nil
  induction es with
  | nil => exact fun acc h => h
  | cons e es ih => exact fun acc h => ih _ h.insert

end Entries

/-- A dictionary: entries whose keys ascend. -/
structure Dict (α : Type) where
  entries : Entries α
  sorted : entries.Sorted

namespace Dict

variable {α β : Type}

def empty : Dict α := ⟨[], List.Pairwise.nil⟩

instance : Inhabited (Dict α) := ⟨empty⟩

def find? (d : Dict α) (key : String) : Option α := d.entries.find? key

def contains (d : Dict α) (key : String) : Bool := (d.find? key).isSome

def insert (d : Dict α) (key : String) (value : α) : Dict α :=
  ⟨Entries.insert key value d.entries, d.sorted.insert⟩

def ofList (es : List (String × α)) : Dict α := ⟨Entries.ofList es, Entries.sorted_ofList es⟩

def keys (d : Dict α) : List String := d.entries.map (·.1)

def values (d : Dict α) : List α := d.entries.map (·.2)

def isEmpty (d : Dict α) : Bool := d.entries.isEmpty

/-- Changes every value and keeps the keys. -/
def map (f : String → α → β) (d : Dict α) : Dict β where
  entries := d.entries.map fun (k, v) => (k, f k v)
  sorted := by
    have h := d.sorted
    unfold Entries.Sorted at h ⊢
    exact List.pairwise_map.2 h

end Dict
end WorkItems
