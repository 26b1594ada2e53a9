import WorkItems.Proofs.Dict
import WorkItems.Proofs.Yaml.Meaning
import WorkItems.Yaml.Record
/-!
# What data is read

Data that is read does not nest deeper than data may, the keys of its mappings differ, and its
numbers are integers in their one form or floating-point numbers.
-/

namespace WorkItems.Yaml

/-! ## Data -/

/-- A number as it is read: an integer is unsigned only if it has to be. -/
def IsReadNumber : Number → Prop
  | .int _ => True
  | .uint u => Int64.maxValue.toInt < u.toNat
  | .float _ => True

/-- Earlier keys are other keys than later ones. -/
def KeysDiffer (es : List (Data × Data)) : Prop := es.Pairwise fun e f => e.1.sameKey f.1 = false

/--
Data with numbers and keys as they are read, and with collections at most `depth` deep. Nothing has
two tags.
-/
inductive IsRead : (depth : Nat) → Data → Prop where
  | null {depth : Nat} : IsRead depth .null
  | bool {depth : Nat} {b : Bool} : IsRead depth (.bool b)
  | number {depth : Nat} {n : Number} : IsReadNumber n → IsRead depth (.number n)
  | string {depth : Nat} {s : String} : IsRead depth (.string s)
  | sequence {depth : Nat} {ds : List Data} :
      (∀ d ∈ ds, IsRead depth d) → IsRead (depth + 1) (.sequence ds)
  | mapping {depth : Nat} {es : List (Data × Data)} : KeysDiffer es →
      (∀ e ∈ es, IsRead depth e.1) → (∀ e ∈ es, IsRead depth e.2) → IsRead (depth + 1) (.mapping es)
  | tagged {depth : Nat} {tag : String} {d : Data} : d.isTagged = false → IsRead depth d →
      IsRead depth (.tagged tag d)

/-! ## Readers -/

/-- What a reader gives, if it gives something. -/
def Gives {α : Type} (P : α → Prop) (r : Read α) : Prop :=
  ∀ document jumps a jumps', r document jumps = .ok (a, jumps') → P a

section Gives

variable {α β : Type} {P : α → Prop} {Q : β → Prop}

theorem Gives.pure {a : α} (h : P a) : Gives P (pure a : Read α) := by
  rintro document jumps _ _ ⟨⟩
  exact h

theorem gives_fail (e : Error) : Gives P (Read.fail e : Read α) := by
  rintro document jumps _ _ ⟨⟩

theorem Gives.bind {r : Read α} {f : α → Read β} (h : Gives P r) (hf : ∀ a, P a → Gives Q (f a)) :
    Gives Q (r >>= f) := by
  intro document jumps b jumps' hb
  simp only [Bind.bind, ReaderT.bind, StateT.bind, Except.bind] at hb
  cases hr : r document jumps with
  | error e =>
      rw [hr] at hb
      cases hb
  | ok result =>
      rw [hr] at hb
      exact hf result.1 (h document jumps result.1 result.2 hr) document result.2 b jumps' hb

theorem Gives.imp {Q : α → Prop} {r : Read α} (h : Gives P r) (himp : ∀ a, P a → Q a) : Gives Q r :=
  fun document jumps a jumps' ha => himp a (h document jumps a jumps' ha)

theorem Gives.map {r : Read α} {f : α → β} (h : Gives P r) (hf : ∀ a, P a → Q (f a)) :
    Gives Q (f <$> r) := by
  rw [map_eq_pure_bind]
  exact h.bind fun a ha => Gives.pure (hf a ha)

theorem gives_true (r : Read α) : Gives (fun _ => True) r := fun _ _ _ _ _ => trivial

theorem gives_mapM {f : β → Read α} (h : ∀ b, Gives P (f b)) :
    ∀ bs : List β, Gives (fun as => ∀ a ∈ as, P a) (bs.mapM f)
  | [] => by
      rw [List.mapM_nil]
      exact Gives.pure (by simp)
  | b :: bs => by
      rw [List.mapM_cons]
      refine (h b).bind fun a ha => (gives_mapM h bs).bind fun as has => Gives.pure ?_
      exact List.forall_mem_cons.2 ⟨ha, has⟩

end Gives

/-! ## What data is read as -/

section Reading

variable {depth : Nat}

theorem isReadNumber_of_ofInt? {i : Int} {n : Number} (h : Number.ofInt? i = some n) :
    IsReadNumber n := by
  rw [Number.ofInt?] at h
  split at h
  · cases h
    trivial
  · split at h
    · rename_i hsigned hunsigned
      cases h
      have hmin : Int64.minValue.toInt ≤ 0 := by decide
      have hnat : (UInt64.ofNat i.toNat).toNat = i.toNat := by
        rw [UInt64.toNat_ofNat', Nat.mod_eq_of_lt hunsigned.2]
      change Int64.maxValue.toInt < (UInt64.ofNat i.toNat).toNat
      rw [hnat]
      omega
    · cases h

theorem isReadNumber_of_resolve {cs : List Char} {n : Number} (h : resolve cs = .number n) :
    IsReadNumber n := by
  rw [resolve] at h
  split at h
  · cases h
  · split at h
    · cases h
    · split at h
      · cases h
        exact isReadNumber_of_ofInt? ‹_›
      · cases h
    · split at h
      · cases h
      · split at h
        · cases h
          trivial
        · cases h

/--
What a scalar with this text may say: null, a truth value, a number, or the text itself, with a tag
around it or without.
-/
inductive IsScalarOf (text : String) : Data → Prop where
  | null : IsScalarOf text .null
  | bool {b : Bool} : IsScalarOf text (.bool b)
  | number {n : Number} : IsReadNumber n → IsScalarOf text (.number n)
  | string : IsScalarOf text (.string text)
  | tagged {tag : String} {d : Data} : d.isTagged = false → IsScalarOf text d →
      IsScalarOf text (.tagged tag d)

theorem IsScalarOf.isRead {text : String} {d : Data} (h : IsScalarOf text d) : IsRead depth d := by
  induction h with
  | null => exact .null
  | bool => exact .bool
  | number hn => exact .number hn
  | string => exact .string
  | tagged hd _ ih => exact .tagged hd ih

/-- Without a tag a scalar is read as data without one. -/
theorem gives_untagged (style : Style) (text : String) :
    Gives (fun d => d.isTagged = false ∧ IsScalarOf text d) (scalarData.untagged style text) := by
  rw [scalarData.untagged]
  split
  · rw [resolved]
    cases hresolve : resolve text.toList with
    | null => exact Gives.pure ⟨rfl, .null⟩
    | bool b => exact Gives.pure ⟨rfl, .bool⟩
    | string => exact Gives.pure ⟨rfl, .string⟩
    | oversized => exact gives_fail _
    | number n => exact Gives.pure ⟨rfl, .number (isReadNumber_of_resolve hresolve)⟩
  · exact Gives.pure ⟨rfl, .string⟩

theorem gives_standardScalar (type text : String) :
    Gives (IsScalarOf text) (standardScalar type text) := by
  rw [standardScalar]
  split
  · split
    · exact Gives.pure .bool
    · exact gives_fail _
  · split
    · split
      · rename_i n hn
        obtain ⟨i, -, hi⟩ := Option.bind_eq_some_iff.1 hn
        exact Gives.pure (.number (isReadNumber_of_ofInt? hi))
      · exact gives_fail _
    · split
      · split
        · exact Gives.pure (.number trivial)
        · exact gives_fail _
      · split
        · split
          · exact Gives.pure .null
          · exact gives_fail _
        · exact Gives.pure .string

theorem gives_scalarData (p : Properties) (style : Style) (text : String) :
    Gives (IsScalarOf text) (scalarData p style text) := by
  rw [scalarData]
  split
  · exact (gives_untagged style text).map fun _ hd => .tagged hd.1 hd.2
  · exact gives_standardScalar _ text
  · exact (gives_untagged style text).imp fun _ hd => hd.2

theorem IsRead.withTag {d : Data} (h : IsRead depth d) (htagged : d.isTagged = false)
    (p : Properties) : Gives (IsRead depth) (withTag p d) := by
  rw [Yaml.withTag]
  split
  · split
    · exact gives_fail _
    · exact Gives.pure (.tagged htagged h)
  · exact Gives.pure h

/-- Entries as they are read. -/
structure AreRead (depth : Nat) (es : List (Data × Data)) : Prop where
  differ : KeysDiffer es
  key : ∀ e ∈ es, IsRead depth e.1
  value : ∀ e ∈ es, IsRead depth e.2

theorem gives_readEntries {child : Node → Read Data} (h : ∀ n, Gives (IsRead depth) (child n)) :
    ∀ (es : List (Node × Node)) (seen : List (Data × Data)), AreRead depth seen.reverse →
      Gives (AreRead depth) (readEntries child seen es)
  | [], seen, hseen => by
      rw [readEntries]
      exact Gives.pure hseen
  | (k, v) :: es, seen, hseen => by
      rw [readEntries]
      refine (h k).bind fun key hkey => ?_
      split
      · exact gives_fail _
      · rename_i hnew
        refine (h v).bind fun value hvalue => gives_readEntries h es _ ?_
        rw [List.reverse_cons]
        have hother : ∀ e ∈ seen.reverse, e.1.sameKey key = false := by
          intro e he
          have hall := List.any_eq_false.1 (Bool.eq_false_iff.2 hnew) e (List.mem_reverse.1 he)
          exact Bool.eq_false_iff.2 hall
        exact {
          differ := List.pairwise_append.2
            ⟨hseen.differ, List.pairwise_singleton .., by simpa using hother⟩
          key := List.forall_mem_append.2 ⟨hseen.key, List.forall_mem_singleton.2 hkey⟩
          value := List.forall_mem_append.2 ⟨hseen.value, List.forall_mem_singleton.2 hvalue⟩ }

/-- What is inside of a collection is read one level deeper. -/
theorem gives_dataWith {child : Option (Node → Read Data)}
    (h : ∀ read, child = some read → ∃ m, depth = m + 1 ∧ ∀ n, Gives (IsRead m) (read n))
    (n : Node) :
    Gives (IsRead depth) (Node.dataWith child n) := by
  rw [Node.dataWith]
  refine (gives_true n.follow).bind fun target _ => ?_
  cases target with
  | scalar p style text => exact (gives_scalarData p style text).imp fun _ hd => hd.isRead
  | aliasOf number => exact gives_fail _
  | sequence p items =>
      cases child with
      | none => exact gives_fail _
      | some read =>
          obtain ⟨m, rfl, hread⟩ := h read rfl
          exact (gives_mapM hread items).bind fun _ hds => (IsRead.sequence hds).withTag rfl p
  | mapping p entries =>
      cases child with
      | none => exact gives_fail _
      | some read =>
          obtain ⟨m, rfl, hread⟩ := h read rfl
          have hnone : AreRead m [].reverse :=
            ⟨List.Pairwise.nil, List.forall_mem_nil _, List.forall_mem_nil _⟩
          exact (gives_readEntries hread entries [] hnone).bind
            fun _ hes => (IsRead.mapping hes.differ hes.key hes.value).withTag rfl p

theorem gives_data (depth : Nat) : ∀ n : Node, Gives (IsRead depth) (n.data depth) := by
  induction depth with
  | zero => exact gives_dataWith fun _ hread => nomatch hread
  | succ depth ih =>
      refine gives_dataWith fun read hread => ⟨depth, rfl, ?_⟩
      cases hread
      exact ih

end Reading

theorem Gives.run {α : Type} {P : α → Prop} {r : Read α} (h : Gives P r) {document : Document}
    {a : α} (ha : r.run document = .ok a) : P a := by
  simp only [Read.run, Functor.map, Except.map] at ha
  split at ha
  · cases ha
  · rename_i result hresult
    cases ha
    exact h document 0 result.1 result.2 hresult

/-- The data of a text does not nest deeper than data may. -/
theorem isRead_of_ofText {text : String} {d : Data} (h : Data.ofText text = .ok d) :
    IsRead nestingLimit d := by
  obtain ⟨document, -, h⟩ := exists_of_bind_eq_ok h
  split at h
  · exact (gives_data nestingLimit _).run h
  · cases h
    exact .null

/-! ## Records -/

section Records

variable {α : Type} {P : α → Prop} {read : Node → Read α}

theorem gives_natural (bound : Nat) (n : Node) : Gives (· < bound) (n.natural bound) := by
  rw [Node.natural]
  refine (gives_true _).bind fun cs _ => ?_
  cases hn : (readNatural? cs).filter (· < bound) with
  | none => exact gives_fail _
  | some n => exact Gives.pure (by simpa using (Option.filter_eq_some_iff.1 hn).2)

theorem gives_optional (h : ∀ n, Gives P (read n)) (n : Node) :
    Gives (fun o => ∀ a, o = some a → P a) (Node.optional read n) := by
  have hsome : ∀ target, Gives (fun o => ∀ a, o = some a → P a) (some <$> read target) :=
    fun target => (h target).map fun a ha b hb => Option.some.inj hb ▸ ha
  rw [Node.optional]
  refine (gives_true _).bind fun target _ => ?_
  cases target with
  | scalar p style text =>
      refine (gives_true _).bind fun missing _ => ?_
      cases missing with
      | true => exact Gives.pure nofun
      | false => exact hsome _
  | _ => exact hsome _

theorem gives_dictionary (h : ∀ n, Gives P (read n)) (n : Node) :
    Gives (fun d => ∀ e ∈ d.entries, P e.2) (Node.dictionary read n) := by
  rw [Node.dictionary]
  refine (gives_true _).bind fun entries _ => ?_
  have hentry : ∀ e : Node × Node, Gives (fun e : String × α => P e.2)
      (do pure (← e.1.text, ← read e.2)) := fun e =>
    (gives_true _).bind fun k _ => (h e.2).bind fun a ha => Gives.pure ha
  exact (gives_mapM hentry entries).bind fun es hes => Gives.pure fun e he =>
    hes e (Entries.mem_ofList he)

namespace Record

variable (r : Record) (name : String)

theorem gives_withDefault {default : α} (hdefault : P default) (h : ∀ n, Gives P (read n)) :
    Gives P (r.withDefault name default read) := by
  rw [Record.withDefault]
  split
  · exact h _
  · exact Gives.pure hdefault

theorem gives_optional (h : ∀ n, Gives P (read n)) :
    Gives (fun o => ∀ a, o = some a → P a) (r.optional name read) :=
  r.gives_withDefault name nofun (Yaml.gives_optional h)

end Record

/-- What is read from a text. -/
theorem of_readText (h : ∀ n, Gives P (read n)) {text : String} {a : α}
    (ha : readText text read = .ok a) : P a := by
  obtain ⟨document, -, ha⟩ := exists_of_bind_eq_ok ha
  exact (h _).run ha

end Records

end WorkItems.Yaml
