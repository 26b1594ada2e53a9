import Mathlib.Data.List.Nodup
import WorkItems.Proofs.Decimal.Digits
import WorkItems.Proofs.Schema.Check
import WorkItems.Proofs.Schema.OfConfig
import WorkItems.Proofs.Value
/-!
# Arrays of plain values

Whether an array repeats an element is decided by a key, the name of the kind of an element and its
text in messages. For plain values, which are neither collections nor floating-point numbers, two
keys are the same exactly if the values are: the kind keeps a text apart from what only looks like
it, and digits give back their number. So for plain elements the check of an array is one of values
(`Field.check_array_exact`).
-/

namespace WorkItems

/-! ## Equal elements -/

theorem Number.display_of_integer? {n : Number} {i : Int} (h : n.integer? = some i) :
    n.display = Decimal.intText i := by
  cases n with
  | int j => rw [← Option.some.inj h, display]
  | uint u => rw [← Option.some.inj h, display, Decimal.natText_eq]
  | float x => cases h

namespace Value

/-- Null, a flag, an integer or a text. -/
inductive IsPlain : Value → Prop
  | null : IsPlain .null
  | bool (b : Bool) : IsPlain (.bool b)
  | integer {n : Number} {i : Int} : n.integer? = some i → IsPlain (.number n)
  | string (s : String) : IsPlain (.string s)

/--
Plain values that are equal. For integers this is a question of their value and not of their kind.
-/
inductive Same : Value → Value → Prop
  | null : Same .null .null
  | bool (b : Bool) : Same (.bool b) (.bool b)
  | integer {m n : Number} {i : Int} :
      m.integer? = some i → n.integer? = some i → Same (.number m) (.number n)
  | string (s : String) : Same (.string s) (.string s)

/-- No two elements at different places are equal. -/
def AllDifferent (items : List Value) : Prop :=
  ∀ (i j : Nat) (v w : Value), items[i]? = some v → items[j]? = some w → v.Same w → i = j

variable {v w : Value}

theorem colon_not_mem_typeName (v : Value) : ':' ∉ v.typeName.toList := by
  cases v <;> rw [typeName] <;> decide

/-- A key tells the kind, which is what stands before the first colon, and the text behind it. -/
theorem identityKey_eq_iff_parts :
    v.identityKey = w.identityKey ↔ v.typeName = w.typeName ∧ v.display = w.display := by
  constructor
  · intro h
    have hkind : ∀ u : Value, u.identityKey.toList.takeWhile (· != ':') = u.typeName.toList := by
      intro u
      have hpass : ∀ c ∈ u.typeName.toList, (c != ':') = true := by
        intro c hc
        rw [bne_iff_ne]
        rintro rfl
        exact colon_not_mem_typeName u hc
      rw [identityKey, String.toList_append, String.toList_append, List.append_assoc,
        List.takeWhile_append_of_pos hpass]
      simp
    have hsame : v.typeName = w.typeName := by rw [← String.toList_inj, ← hkind v, h, hkind w]
    rw [identityKey, identityKey, hsame, ← String.toList_inj] at h
    exact ⟨hsame, by simpa [String.toList_inj] using h⟩
  · rintro ⟨hkind, htext⟩
    rw [identityKey, hkind, htext, ← identityKey]

/-- Plain values of one kind are equal if they have the same text. -/
theorem same_of_display (hv : v.IsPlain) (hw : w.IsPlain) (hkind : v.typeName = w.typeName)
    (htext : v.display = w.display) : v.Same w := by
  cases hv with
  | null =>
      cases hw with
      | null => exact .null
      | _ => simp [typeName] at hkind
  | bool b =>
      cases hw with
      | bool b' =>
          cases b <;> cases b' <;> first | exact .bool _ | simp [display] at htext
      | _ => simp [typeName] at hkind
  | integer hi =>
      cases hw with
      | integer hj =>
          rw [display, display, Number.display_of_integer? hi,
            Number.display_of_integer? hj] at htext
          have heq := Decimal.signed_injective (String.ofList_inj.1 htext)
          exact .integer hi (heq ▸ hj)
      | _ => simp [typeName] at hkind
  | string s =>
      cases hw with
      | string t =>
          rw [display, display] at htext
          exact htext ▸ .string s
      | _ => simp [typeName] at hkind

/-- The keys of plain values are the same exactly if the values are equal. -/
theorem identityKey_eq_iff (hv : v.IsPlain) (hw : w.IsPlain) :
    v.identityKey = w.identityKey ↔ v.Same w := by
  constructor
  · intro h
    obtain ⟨hkind, htext⟩ := identityKey_eq_iff_parts.1 h
    exact same_of_display hv hw hkind htext
  · intro h
    cases h with
    | null | bool b | string s => rfl
    | integer hm hn =>
        refine identityKey_eq_iff_parts.2 ⟨rfl, ?_⟩
        rw [display, display, Number.display_of_integer? hm, Number.display_of_integer? hn]

/-- Keys of plain values do not repeat exactly if no two of the values are equal. -/
theorem nodup_identityKey_iff {items : List Value} (hplain : ∀ v ∈ items, v.IsPlain) :
    (items.map identityKey).Nodup ↔ AllDifferent items := by
  have hkeys : ∀ {i j : Nat} {v w : Value}, items[i]? = some v → items[j]? = some w →
      ((items.map identityKey)[i]? = (items.map identityKey)[j]? ↔ v.Same w) := by
    intro i j v w hv hw
    rw [List.getElem?_map, List.getElem?_map, hv, hw, Option.map_some, Option.map_some,
      Option.some_inj]
    exact identityKey_eq_iff (hplain v (List.mem_of_getElem? hv))
      (hplain w (List.mem_of_getElem? hw))
  rw [List.nodup_iff_getElem?_ne_getElem?]
  constructor
  · intro hnodup i j v w hv hw hsame
    have hlt : ∀ {i : Nat} {v : Value}, items[i]? = some v →
        i < (items.map identityKey).length := by
      intro i v hv
      rw [List.length_map]
      exact (List.getElem?_eq_some_iff.1 hv).1
    rcases Nat.lt_trichotomy i j with hij | rfl | hij
    · exact absurd ((hkeys hv hw).2 hsame) (hnodup i j hij (hlt hw))
    · rfl
    · exact absurd ((hkeys hv hw).2 hsame).symm (hnodup j i hij (hlt hv))
  · intro hdifferent i j hij hj heq
    rw [List.length_map] at hj
    have hv := List.getElem?_eq_getElem (Nat.lt_trans hij hj)
    have hw := List.getElem?_eq_getElem hj
    exact Nat.ne_of_lt hij (hdifferent i j _ _ hv hw ((hkeys hv hw).1 heq))

end Value

/-! ## What a configuration allows -/

namespace FieldConfig

variable (c : FieldConfig)

/-- A length between the two that are configured. -/
def AllowsLength (n : Nat) : Prop :=
  (∀ a, c.minLength = some a → a ≤ n) ∧ ∀ b, c.maxLength = some b → n ≤ b

/-- A text that is among the allowed values, or is but for case if case is said not to count. -/
def Lists (s : String) : Prop :=
  ∃ a ∈ c.allowedValues,
    a = s ∨ c.caseSensitive = some false ∧ Unicode.lowerCase a = Unicode.lowerCase s

/-- What an array may hold that is configured to have items of a type. -/
def AllowsItem : FieldType → Value → Prop
  | .number, .number _ | .string, .string _ => True
  | .enumeration, .string s => c.Lists s
  | _, _ => False

end FieldConfig

namespace Field

variable {name : String} {c : FieldConfig} {f : Field}

/-- A field is as strict about case as its configuration says. -/
theorem matches_iff {value text : String} :
    f.Matches value text ↔ value = text ∨
      f.config.caseSensitive = some false ∧ Unicode.lowerCase value = Unicode.lowerCase text := by
  have hcase : f.isCaseSensitive = false ↔ f.config.caseSensitive = some false := by
    rw [isCaseSensitive]
    rcases f.config.caseSensitive with _ | _ | _ <;> decide
  rw [Matches, hcase]

theorem isItem_iff {t : FieldType} {v : Value} : f.IsItem t v ↔ f.config.AllowsItem t v := by
  constructor
  · rintro ⟨helement, hallowed⟩
    match t, v with
    | .number, .number n => trivial
    | .string, .string s => trivial
    | .enumeration, .string s =>
        obtain ⟨a, ha, hmatch⟩ := isSome_allowed?_iff.1 (hallowed rfl)
        exact ⟨a, ha, matches_iff.1 hmatch⟩
  · intro h
    match t, v with
    | .number, .number n => exact ⟨rfl, fun ht => nomatch ht⟩
    | .string, .string s => exact ⟨rfl, fun ht => nomatch ht⟩
    | .enumeration, .string s =>
        obtain ⟨a, ha, hmatch⟩ := h
        exact ⟨rfl, fun _ => isSome_allowed?_iff.2 ⟨a, ha, matches_iff.2 hmatch⟩⟩

theorem measures_iff {n : Nat} : f.Measures n ↔ f.config.AllowsLength n :=
  ⟨fun h => ⟨h.least, h.greatest⟩, fun h => ⟨h.1, h.2⟩⟩

/--
An array field accepts a sequence of nulls, flags, integers and texts exactly if its length is
allowed, every element is one that its items may be if they have a type, and no two elements are
equal if there must be no repetition. The keys in which repetitions are looked for are the same for
equal elements, and for no others.
-/
theorem check_array_exact {today : Date} {items : List Value} (hf : ofConfig name c = .ok f)
    (htype : c.fieldType = .array) (hplain : ∀ v ∈ items, v.IsPlain) :
    (f.check today (.sequence items) = .ok () ↔
      c.AllowsLength items.length ∧
      (∀ t, c.itemType = some t → ∀ v ∈ items, c.AllowsItem t v) ∧
      (c.unique = true → Value.AllDifferent items)) ∧
    ∀ v ∈ items, ∀ w ∈ items, v.identityKey = w.identityKey ↔ v.Same w := by
  have hmade := isMadeFrom_of_ofConfig hf
  have harray : f.fieldType = .array := hmade.fieldType.trans htype
  refine ⟨?_, fun v hv w hw => Value.identityKey_eq_iff (hplain v hv) (hplain w hw)⟩
  have hmeets : f.Meets today (.sequence items) ↔ f.IsList items := by
    simp only [Meets, harray]
  have hlist : f.IsList items ↔ f.Measures items.length ∧
      (∀ t, f.config.itemType = some t → ∀ v ∈ items, f.IsItem t v) ∧
      (f.config.unique = true → (items.map Value.identityKey).Nodup) :=
    ⟨fun h => ⟨h.length, h.elements, h.unique⟩, fun h => ⟨h.1, h.2.1, h.2.2⟩⟩
  have hkind : f.HasKind (.sequence items) := by
    simp only [HasKind, harray]
    exact ⟨items, rfl⟩
  rw [check_eq_ok_iff hkind, hmeets, hlist]
  simp only [measures_iff, isItem_iff, Value.nodup_identityKey_iff hplain, hmade.config]
  rfl

/-- At most four tags without a repetition. -/
def tagsConfig : FieldConfig := { fieldType := .array, maxLength := some 4, unique := true }

/-- A text, an integer and a flag, of which the first two look alike. -/
def lookAlikes : List Value := [.string "1", .number (.int 1), .bool true]

theorem check_array_exact_lookAlikes :
    ∃ f, ofConfig "tags" tagsConfig = .ok f ∧ tagsConfig.fieldType = .array ∧
      (∀ v ∈ lookAlikes, v.IsPlain) ∧
      f.check DateFormat.january (.sequence lookAlikes) = .ok () ∧ Value.AllDifferent lookAlikes ∧
      f.check DateFormat.january (.sequence (lookAlikes ++ [.number (.uint 1)])) ≠ .ok () := by
  have hplain : ∀ v ∈ lookAlikes, v.IsPlain := by
    intro v hv
    simp only [lookAlikes, List.mem_cons, List.not_mem_nil, or_false] at hv
    rcases hv with rfl | rfl | rfl
    · exact .string _
    · exact .integer rfl
    · exact .bool _
  have hmore : ∀ v ∈ lookAlikes ++ [.number (.uint 1)], v.IsPlain := by
    intro v hv
    rcases List.mem_append.1 hv with hv | hv
    · exact hplain v hv
    · exact List.mem_singleton.1 hv ▸ .integer rfl
  have hpass : ∃ f, ofConfig "tags" tagsConfig = .ok f ∧
      f.check DateFormat.january (.sequence lookAlikes) = .ok () := ⟨_, rfl, rfl⟩
  obtain ⟨f, hf, haccepted⟩ := hpass
  refine ⟨f, hf, rfl, hplain, haccepted, ?_, ?_⟩
  · exact ((check_array_exact hf rfl hplain).1.1 haccepted).2.2 rfl
  · intro h
    have hdifferent := ((check_array_exact hf rfl hmore).1.1 h).2.2 rfl
    have hsame : Value.Same (.number (.int 1)) (.number (.uint 1)) := .integer (i := 1) rfl rfl
    cases hdifferent 1 3 _ _ rfl rfl hsame

end Field
end WorkItems
