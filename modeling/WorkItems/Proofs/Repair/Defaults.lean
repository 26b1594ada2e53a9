import WorkItems.Repair
/-!
# Filling fields from their defaults

Whether a default can be resolved depends on the field and on the day, never on the item. So when
all defaults of a schema have been resolved once, no item can bring a failure to light later,
whichever of its fields are missing.
-/

namespace WorkItems

namespace Schema

/-- A run over fields that ends well has resolved the default of each. -/
theorem resolveDefault_ok_of_forM {today : Date} {fs : List Field}
    (h : (fs.forM fun f => (resolveDefault f today).map fun _ => ()) = .ok ()) :
    ∀ f ∈ fs, ∃ v, resolveDefault f today = .ok v := by
  induction fs with
  | nil => exact fun f hf => nomatch hf
  | cons f fs ih =>
      rw [List.forM] at h
      cases hf : resolveDefault f today with
      | error e =>
          rw [hf] at h
          cases h
      | ok v =>
          rw [hf] at h
          intro g hg
          rcases List.mem_cons.1 hg with rfl | hg
          · exact ⟨v, hf⟩
          · exact ih h g hg

theorem resolveDefault_ok_of_checkDefaults {s : Schema} {today : Date}
    (h : s.checkDefaults today = .ok ()) :
    ∀ f ∈ s.fields.values, ∃ v, resolveDefault f today = .ok v :=
  resolveDefault_ok_of_forM h

end Schema

namespace Repair

variable {s : Schema} {today : Date} {item filled : Item}

/--
Nothing is left to fill in a field: it is no field of its own, has a value, or has no default.
-/
def IsSettled (today : Date) (item : Item) (f : Field) : Prop :=
  isCoreName f.name = true ∨ isFilled item f.name = true ∨
    Schema.resolveDefault f today = .ok none

/-- A field of its own has no value in an item, and a default on the day `today`. -/
structure IsGap (today : Date) (item : Item) (f : Field) (v : Value) : Prop where
  own : isCoreName f.name = false
  empty : isFilled item f.name = false
  default : Schema.resolveDefault f today = .ok (some v)

theorem IsSettled.not_isGap {f : Field} (h : IsSettled today item f) (v : Value) :
    ¬IsGap today item f v := by
  rintro ⟨hown, hempty, hdefault⟩
  obtain hcore | hfilled | hnone := h
  · rw [hcore] at hown
    cases hown
  · rw [hfilled] at hempty
    cases hempty
  · rw [hnone] at hdefault
    cases hdefault

/-- One step of filling: a settled field is passed over, and a gap is filled with the default. -/
theorem fillFields_cons_eq_ok {f : Field} {fs : List Field} {names : List String}
    (h : fillFields today item (f :: fs) = (filled, .ok names)) :
    (IsSettled today item f ∧ fillFields today item fs = (filled, .ok names)) ∨
      ∃ v more, IsGap today item f v ∧ names = f.name :: more ∧
        fillFields today { item with fields := item.fields.insert f.name v } fs =
          (filled, .ok more) := by
  rw [fillFields] at h
  split at h
  · rename_i hskip
    rcases Bool.or_eq_true_iff.1 hskip with hcore | hfilled
    · exact .inl ⟨.inl hcore, h⟩
    · exact .inl ⟨.inr (.inl hfilled), h⟩
  · rename_i hskip
    rw [Bool.or_eq_true_iff, not_or] at hskip
    split at h
    · cases h
    · rename_i hnone
      exact .inl ⟨.inr (.inr hnone), h⟩
    · rename_i v hv
      have hgap : IsGap today item f v :=
        ⟨Bool.eq_false_iff.2 hskip.1, Bool.eq_false_iff.2 hskip.2, hv⟩
      cases hfill : fillFields today { item with fields := item.fields.insert f.name v } fs with
      | mk rest result =>
          rw [hfill] at h
          cases result with
          | error e => cases h
          | ok more =>
              cases h
              exact .inr ⟨v, more, hgap, rfl, hfill⟩

/-- Filling fails only over a default that cannot be resolved. -/
theorem fillFields_ok {fs : List Field} (h : ∀ f ∈ fs, ∃ v, Schema.resolveDefault f today = .ok v)
    (item : Item) : ∃ filled names, fillFields today item fs = (filled, .ok names) := by
  induction fs generalizing item with
  | nil => exact ⟨item, [], rfl⟩
  | cons f fs ih =>
      have hfs : ∀ g ∈ fs, ∃ v, Schema.resolveDefault g today = .ok v :=
        fun g hg => h g (List.mem_cons_of_mem _ hg)
      rw [fillFields]
      split
      · exact ih hfs item
      · obtain ⟨v, hv⟩ := h f (List.mem_cons_self ..)
        rw [hv]
        cases v with
        | none => exact ih hfs item
        | some v =>
            obtain ⟨filled, names, hrest⟩ :=
              ih hfs { item with fields := item.fields.insert f.name v }
            exact ⟨filled, f.name :: names, by simp only [hrest]; rfl⟩

/-- With defaults that have been checked, every document can be repaired. -/
theorem repairDocument_ok (h : s.checkDefaults today = .ok ()) (doc : Document) :
    ∃ repaired changes, repairDocument s today doc = (repaired, .ok changes) := by
  obtain ⟨filled, names, hfill⟩ :=
    fillFields_ok (Schema.resolveDefault_ok_of_checkDefaults h) doc.item
  refine ⟨{ doc with item := (fixItem s filled).1 },
    additions filled names ++ (fixItem s filled).2, ?_⟩
  simp only [repairDocument, repairItem, applyDefaults, hfill]

end Repair
end WorkItems
