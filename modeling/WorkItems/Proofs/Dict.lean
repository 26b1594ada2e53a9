import WorkItems.Dict
/-!
# Keys and look-ups of dictionaries
-/

namespace WorkItems

namespace Entries

variable {α : Type}

theorem mem_keys_insert {key k : String} {value : α} {es : Entries α} :
    k ∈ (insert key value es).map (·.1) ↔ k = key ∨ k ∈ es.map (·.1) := by
  induction es with
  | nil => simp [insert]
  | cons e es ih =>
      obtain ⟨l, v⟩ := e
      rw [insert]
      split
      · simp
      · split
        · rename_i heq
          simp [heq]
        · rw [List.map_cons, List.mem_cons, ih, List.map_cons, List.mem_cons]
          exact or_left_comm

theorem mem_keys_foldl_insert {k : String} {es : List (String × α)} :
    ∀ {acc : Entries α},
      k ∈ (es.foldl (fun acc e => insert e.1 e.2 acc) acc).map (·.1) ↔
        k ∈ es.map (·.1) ∨ k ∈ acc.map (·.1) := by
  induction es with
  | nil => simp
  | cons e es ih =>
      intro acc
      rw [List.foldl_cons, ih, mem_keys_insert, List.map_cons, List.mem_cons]
      constructor
      · rintro (h | h | h)
        · exact .inl (.inr h)
        · exact .inl (.inl h)
        · exact .inr h
      · rintro ((h | h) | h)
        · exact .inr (.inl h)
        · exact .inl h
        · exact .inr (.inr h)

theorem mem_keys_ofList {k : String} {es : List (String × α)} :
    k ∈ (ofList es).map (·.1) ↔ k ∈ es.map (·.1) := by
  rw [ofList, mem_keys_foldl_insert]
  simp

theorem mem_of_find? {key : String} {value : α} {es : Entries α} (h : find? key es = some value) :
    (key, value) ∈ es := by
  induction es with
  | nil => cases h
  | cons e es ih =>
      obtain ⟨k, v⟩ := e
      rw [find?] at h
      split at h
      · rename_i heq
        cases h
        exact heq ▸ List.mem_cons_self ..
      · exact List.mem_cons_of_mem _ (ih h)

theorem mem_ofList {es : List (String × α)} {e : String × α} (h : e ∈ ofList es) : e ∈ es := by
  suffices hfold : ∀ acc : Entries α,
      e ∈ es.foldl (fun acc e => insert e.1 e.2 acc) acc → e ∈ es ∨ e ∈ acc from
    (hfold [] h).resolve_right List.not_mem_nil
  clear h
  induction es with
  | nil => exact fun acc h => .inr h
  | cons a es ih =>
      intro acc h
      rcases ih _ h with h | h
      · exact .inl (List.mem_cons_of_mem _ h)
      · rcases mem_insert h with rfl | h
        · exact .inl (List.mem_cons_self ..)
        · exact .inr h

/-- What was put under a key is found there, and all else where it was. -/
theorem find?_insert (key k : String) (value : α) (es : Entries α) :
    find? k (insert key value es) = if key = k then some value else find? k es := by
  induction es with
  | nil => rfl
  | cons e es ih =>
      obtain ⟨l, v⟩ := e
      rw [insert]
      split
      · rw [find?]
      · split
        · rename_i heq
          rw [find?, find?, ← heq]
          split
          · rfl
          · rfl
        · rename_i hne
          rw [find?, find?, ih]
          split
          · rename_i heq
            rw [if_neg (heq ▸ hne)]
          · rfl

theorem find?_map {β : Type} (f : String → α → β) (key : String) (es : Entries α) :
    find? key (es.map fun (k, v) => (k, f k v)) = (find? key es).map (f key) := by
  induction es with
  | nil => rfl
  | cons e es ih =>
      obtain ⟨k, v⟩ := e
      rw [List.map_cons, find?, find?]
      split
      · rename_i heq
        rw [heq]
        rfl
      · exact ih

/-- Where the keys ascend, every entry is found under its key. -/
theorem find?_eq_some_iff {key : String} {value : α} {es : Entries α} (h : Sorted es) :
    find? key es = some value ↔ (key, value) ∈ es := by
  constructor
  · exact mem_of_find?
  · intro hmem
    induction es with
    | nil => cases hmem
    | cons e es ih =>
        obtain ⟨k, v⟩ := e
        obtain ⟨hhead, hes⟩ := List.pairwise_cons.1 h
        rw [find?]
        rcases List.mem_cons.1 hmem with heq | hmem
        · cases heq
          rw [if_pos rfl]
        · have hne : k ≠ key := fun heq => String.lt_irrefl k (heq ▸ hhead _ hmem)
          rw [if_neg hne, ih hes hmem]

/-- A key above all others comes last. -/
theorem insert_of_lt {key : String} {value : α} {es : Entries α} (h : ∀ e ∈ es, e.1 < key) :
    insert key value es = es ++ [(key, value)] := by
  induction es with
  | nil => rfl
  | cons e es ih =>
      obtain ⟨k, v⟩ := e
      have hk : k < key := h _ (List.mem_cons_self ..)
      have hlt : ¬key < k := fun hlt => String.lt_irrefl _ (String.lt_trans hlt hk)
      have hne : key ≠ k := by
        rintro rfl
        exact String.lt_irrefl _ hk
      rw [insert, if_neg hlt, if_neg hne, ih fun e he => h e (List.mem_cons_of_mem _ he)]
      rfl

/-- Entries whose keys ascend are already in the order of a dictionary. -/
theorem ofList_of_sorted {es : Entries α} (h : Sorted es) : ofList es = es := by
  suffices key : ∀ acc : Entries α, Sorted (acc ++ es) →
      es.foldl (fun acc e => insert e.1 e.2 acc) acc = acc ++ es from key [] h
  intro acc hacc
  clear h
  induction es generalizing acc with
  | nil => simp
  | cons e es ih =>
      have hlast : ∀ a ∈ acc, a.1 < e.1 := fun a ha =>
        (List.pairwise_append.1 hacc).2.2 a ha e (List.mem_cons_self ..)
      rw [List.foldl_cons, insert_of_lt hlast, ih _ (by simpa using hacc)]
      simp

/-! ## Entries that share a key -/

/-- The entries whose key does not come again. -/
def lasting : List (String × α) → List (String × α)
  | [] => []
  | e :: es => if e.1 ∈ es.map (·.1) then lasting es else e :: lasting es

theorem lasting_sublist : ∀ es : List (String × α), (lasting es).Sublist es
  | [] => List.Sublist.refl _
  | e :: es => by
      rw [lasting]
      split
      · exact (lasting_sublist es).cons e
      · exact (lasting_sublist es).cons_cons e

/-- All of them last exactly if no key comes twice. -/
theorem length_lasting_eq_iff {es : List (String × α)} :
    (lasting es).length = es.length ↔ (es.map (·.1)).Nodup := by
  induction es with
  | nil => simp [lasting]
  | cons e es ih =>
      have hle : (lasting es).length ≤ es.length := (lasting_sublist es).length_le
      rw [lasting, List.map_cons, List.nodup_cons]
      split
      · rename_i hmem
        rw [List.length_cons]
        constructor
        · intro heq
          omega
        · intro hnodup
          exact absurd hmem hnodup.1
      · rename_i hmem
        rw [List.length_cons, List.length_cons, Nat.add_right_cancel_iff, ih]
        exact ⟨fun hnodup => ⟨hmem, hnodup⟩, fun hnodup => hnodup.2⟩

/-- Putting a value under a key takes the place of what was there. -/
theorem insert_perm {key : String} {value : α} {es : Entries α} (h : Sorted es) :
    (insert key value es).Perm ((key, value) :: es.filter fun e => e.1 ≠ key) := by
  induction es with
  | nil => exact List.Perm.refl _
  | cons e es ih =>
      obtain ⟨k, v⟩ := e
      obtain ⟨hhead, hes⟩ := List.pairwise_cons.1 h
      rw [insert]
      split
      · rename_i hlt
        have hother : ∀ e ∈ (k, v) :: es, decide (e.1 ≠ key) = true := by
          intro e he
          rw [decide_eq_true_eq]
          rintro rfl
          rcases List.mem_cons.1 he with rfl | he
          · exact String.lt_irrefl _ hlt
          · exact String.lt_irrefl _ (String.lt_trans hlt (hhead e he))
        rw [List.filter_eq_self.2 hother]
      · split
        · rename_i heq
          have hother : ∀ e ∈ es, decide (e.1 ≠ key) = true := by
            intro e he
            rw [decide_eq_true_eq]
            rintro rfl
            exact String.lt_irrefl _ (heq ▸ hhead e he)
          rw [List.filter_cons_of_neg (by simp [heq]), List.filter_eq_self.2 hother]
        · rename_i hne
          rw [List.filter_cons_of_pos (by simpa using Ne.symm hne)]
          exact ((ih hes).cons _).trans (List.Perm.swap ..)

theorem foldl_insert_perm (es : List (String × α)) : ∀ {acc : Entries α}, Sorted acc →
    (es.foldl (fun acc e => insert e.1 e.2 acc) acc).Perm
      (lasting es ++ acc.filter fun e => e.1 ∉ es.map (·.1)) := by
  induction es with
  | nil =>
      intro acc _
      have hall : acc.filter (fun e => e.1 ∉ ([] : List (String × α)).map (·.1)) = acc :=
        List.filter_eq_self.2 fun e _ => by simp
      rw [hall]
      exact List.Perm.refl _
  | cons e es ih =>
      intro acc hacc
      have hinsert : (insert e.1 e.2 acc).Perm (e :: acc.filter fun a => a.1 ≠ e.1) :=
        insert_perm hacc
      have hrest := hinsert.filter fun a => a.1 ∉ es.map (·.1)
      have hfilter : (acc.filter fun a => a.1 ≠ e.1).filter (fun a => a.1 ∉ es.map (·.1)) =
          acc.filter fun a => a.1 ∉ (e :: es).map (·.1) := by
        rw [List.filter_filter]
        refine List.filter_congr fun a _ => ?_
        rw [List.map_cons, Bool.eq_iff_iff]
        simp [and_comm]
      refine (ih hacc.insert).trans ((hrest.append_left _).trans ?_)
      rw [lasting]
      split
      · rename_i hmem
        rw [List.filter_cons_of_neg (by simpa using hmem), hfilter]
      · rename_i hmem
        rw [List.filter_cons_of_pos (by simpa using hmem), hfilter]
        exact List.perm_middle

/-- A dictionary has the entries whose key does not come again. -/
theorem ofList_perm (es : List (String × α)) : (ofList es).Perm (lasting es) := by
  have hperm := foldl_insert_perm es (List.Pairwise.nil : Sorted [])
  rwa [List.filter_nil, List.append_nil] at hperm

end Entries

namespace Dict

variable {α : Type}

theorem mem_keys_ofList {k : String} {es : List (String × α)} :
    k ∈ (ofList es).keys ↔ k ∈ es.map (·.1) := Entries.mem_keys_ofList

/-- Dictionaries with the same entries are equal. -/
theorem ext_entries {d e : Dict α} (h : d.entries = e.entries) : d = e := by
  obtain ⟨es, hs⟩ := d
  obtain ⟨fs, ht⟩ := e
  obtain rfl : es = fs := h
  rfl

/-- A dictionary stays as it is exactly if every value in it does. -/
theorem map_eq_self_iff {f : α → α} {d : Dict α} :
    d.map (fun _ a => f a) = d ↔ ∀ e ∈ d.entries, f e.2 = e.2 := by
  constructor
  · intro h e he
    have hmap : d.entries.map (fun e => (e.1, f e.2)) = d.entries.map id := by
      rw [List.map_id]
      exact congrArg Dict.entries h
    exact congrArg Prod.snd (List.map_inj_left.1 hmap e he)
  · intro h
    refine ext_entries ((List.map_congr_left fun e he => ?_).trans (List.map_id d.entries))
    exact congrArg (e.1, ·) (h e he)

end Dict
end WorkItems
