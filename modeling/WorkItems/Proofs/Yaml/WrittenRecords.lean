import WorkItems.Proofs.Dict
import WorkItems.Proofs.Yaml.WrittenData
import WorkItems.Yaml.Record
/-!
# What written records are read as

Texts, flags, numbers, lists, dictionaries and records are read as what they were written from. A
field of a record that is not written is as if it had no value, and a value is never taken for a
missing one.
-/

namespace WorkItems.Yaml

variable {α β : Type} {read : Node → Read α}

/-! ## Scalars -/

theorem text_written (s : String) : (Data.string s).written.text = pure s := rfl

theorem name_written (s : String) : (Data.string s).written.name = pure s := rfl

theorem flag_written (b : Bool) : (Data.bool b).written.flag = pure b := by
  cases b <;> rfl

theorem natural_written {bound : Nat} {u : UInt64} (h : u.toNat < bound) :
    (Data.number (.uint u)).written.natural bound = pure u.toNat := by
  have htext : (numberText (.uint u)).toList = Decimal.digits u.toNat := by
    rw [numberText, Decimal.natText, String.toList_ofList]
  change Read.ofOption ((readNatural? (numberText (.uint u)).toList).filter (· < bound)) = _
  rw [htext, readNatural?_digits, Option.filter_some, if_pos (by simpa using h)]
  rfl

/-- A plain scalar is a floating-point number only if it is read as one. -/
theorem readReal?_of_resolve {cs : List Char} {x : Float} (h : resolve cs = .number (.float x)) :
    readReal? cs = some x := by
  rw [resolve] at h
  split at h
  · cases h
  · split at h
    · cases h
    · split at h
      · rename_i hinteger
        cases h
        rw [Number.ofInt?] at hinteger
        repeat' split at hinteger
        all_goals cases hinteger
      · cases h
    · split at h
      · cases h
      · split at h
        · cases h
          assumption
        · cases h

theorem real_written {x : Float} (h : Decimal.isNaN x = false) :
    (Data.number (.float x)).written.real = pure x := by
  change Read.ofOption (readReal? (realLayout.text x).toList) = _
  rw [readReal?_of_resolve (resolve_realText h)]
  rfl

/-! ## Values that may be missing -/

/-- A node that is not an alias and does not stand for a missing value. -/
def IsGiven : Node → Prop
  | .scalar p style text => isMissing p style text = pure false
  | .aliasOf _ => False
  | _ => True

theorem optional_of_isGiven {n : Node} {a : α} (h : IsGiven n) (hread : read n = pure a) :
    Node.optional read n = pure (some a) := by
  cases n with
  | scalar p style text =>
      have hmissing : isMissing p style text = pure false := h
      change (isMissing p style text >>= fun missing =>
        if missing then pure none else some <$> read (.scalar p style text)) = _
      rw [hmissing, pure_bind, hread]
      rfl
  | aliasOf number => exact h.elim
  | sequence p items =>
      change some <$> read (.sequence p items) = _
      rw [hread]
      rfl
  | mapping p entries =>
      change some <$> read (.mapping p entries) = _
      rw [hread]
      rfl

/-- Nothing but the spellings of null is null. -/
theorem resolve_eq_null_iff {cs : List Char} :
    resolve cs = .null ↔ (cs.isEmpty || isNullText cs) = true := by
  rw [resolve]
  split
  · rename_i hnull
    exact iff_of_true rfl hnull
  · rename_i hvalue
    refine iff_of_false ?_ hvalue
    split
    · exact Resolved.noConfusion
    · split <;> exact Resolved.noConfusion
    · split
      · exact Resolved.noConfusion
      · split <;> exact Resolved.noConfusion

/-- A plain scalar that is not null has a value. -/
theorem isGiven_plain {text : String} (h : resolve text.toList ≠ .null) :
    IsGiven (.scalar .none .plain text) := by
  have hvalue : (text.isEmpty || isNullText text.toList) = false := by
    rw [Ne, resolve_eq_null_iff, Bool.not_eq_true] at h
    simpa using h
  change (pure (text.isEmpty || isNullText text.toList) : Read Bool) = _
  rw [hvalue]

theorem isGiven_string (s : String) : IsGiven (Data.string s).written := by
  have hstyled := styled_styleOf s.toList
  rw [Data.written]
  cases hstyle : styleOf s.toList with
  | plain =>
      rw [hstyle] at hstyled
      cases hstyled with
      | plain hstring _ => exact isGiven_plain (by rw [hstring]; exact Resolved.noConfusion)
  | _ => rfl

theorem isGiven_bool (b : Bool) : IsGiven (Data.bool b).written := by
  cases b <;> rfl

theorem isGiven_real {x : Float} (h : Decimal.isNaN x = false) :
    IsGiven (Data.number (.float x)).written :=
  isGiven_plain (by rw [numberText, resolve_realText h]; exact Resolved.noConfusion)

theorem isGiven_natural (u : UInt64) : IsGiven (Data.number (.uint u)).written := by
  obtain ⟨c, cs, hcs, hc⟩ := head?_signed (u.toNat : Int)
  have htext : (numberText (.uint u)).toList = c :: cs := by
    rw [numberText, Decimal.natText_eq, Decimal.intText, String.toList_ofList, hcs]
  refine isGiven_plain fun hnull => ?_
  rw [htext] at hnull
  have hmissing := resolve_eq_null_iff.1 hnull
  rw [(not_word cs hc).1] at hmissing
  cases hmissing

/-- A tag that is kept is not the one of a standard type. -/
theorem mark_ne_standardTag (tag type : String) : "!" ++ tag ≠ standardTag type := by
  intro heq
  have hmark : (standardTag type).toList.head? = some '!' := by
    rw [← heq, String.toList_append]
    rfl
  have hfirst : "tag:yaml.org,2002:".toList.head? = some 't' := by decide +kernel
  unfold standardTag at hmark
  rw [String.toList_append, List.head?_append, hfirst, Option.some_or] at hmark
  exact absurd hmark (by decide)

theorem isGiven_taggedScalar (tag : String) (style : Style) (text : String) :
    IsGiven (.scalar ⟨none, some ("!" ++ tag)⟩ style text) := by
  have hne := mark_ne_standardTag tag "null"
  rw [IsGiven, isMissing]
  cases hplain : style != .plain with
  | true => rw [if_pos rfl]
  | false => simp only [Bool.false_eq_true, if_false, bne_iff_ne.2 hne, if_true]

theorem isGiven_tagged {tag : String} {d : Data} (h : d.isTagged = false) :
    IsGiven (Data.tagged tag d).written := by
  cases d with
  | sequence ds => trivial
  | mapping es => trivial
  | tagged tag d => cases h
  | _ => exact isGiven_taggedScalar ..

theorem isGiven_written {depth : Nat} {d : Data} (h : IsRead depth d)
    (hreadable : d.Fulfils readable) (hnull : d ≠ .null) : IsGiven d.written := by
  cases d with
  | null => exact absurd rfl hnull
  | bool b => exact isGiven_bool b
  | number n =>
      cases h with
      | number hn =>
          cases hreadable with
          | number hnumber =>
              exact isGiven_plain
                (by rw [resolve_numberText hn hnumber]; exact Resolved.noConfusion)
  | string s => exact isGiven_string s
  | sequence ds => trivial
  | mapping es => trivial
  | tagged tag d =>
      cases h with
      | tagged hsingle _ => exact isGiven_tagged hsingle

/-! ## Lists and dictionaries -/

theorem writtenItems_eq_map (ds : List Data) : Data.writtenItems ds = ds.map Data.written := by
  induction ds with
  | nil => rfl
  | cons d ds ih => rw [Data.writtenItems, ih, List.map_cons]

theorem writtenEntries_eq_map (es : List (Data × Data)) :
    Data.writtenEntries es = es.map fun e => (e.1.written, e.2.written) := by
  induction es with
  | nil => rfl
  | cons e es ih => rw [Data.writtenEntries, ih, List.map_cons]

/-- Where each element is read as its value, all are. -/
theorem mapM_map_eq_pure {γ δ : Type} {f : β → Read γ} {toNode : δ → β} {g : δ → γ} :
    ∀ {ds : List δ}, (∀ d ∈ ds, f (toNode d) = pure (g d)) →
      (ds.map toNode).mapM f = pure (ds.map g)
  | [], _ => List.mapM_nil
  | d :: ds, h => by
      rw [List.map_cons, List.mapM_cons, h d (List.mem_cons_self ..), pure_bind,
        mapM_map_eq_pure fun e he => h e (List.mem_cons_of_mem _ he), pure_bind, List.map_cons]

theorem list_written {toData : α → Data} {as : List α}
    (h : ∀ a ∈ as, read (toData a).written = pure a) :
    (Data.sequence (as.map toData)).written.list read = pure as := by
  have hitems := mapM_map_eq_pure h
  rw [List.map_id'] at hitems
  change (Data.writtenItems (as.map toData)).mapM read = _
  rw [writtenItems_eq_map, List.map_map]
  exact hitems

/--
A dictionary is read entry by entry, each with the value that is read from what it is written as.
-/
theorem dictionary_written {toData : α → Data} {f : α → α} {d : Dict α}
    (h : ∀ e ∈ d.entries, read (toData e.2).written = pure (f e.2)) :
    (Data.mapping (d.entries.map fun e => (.string e.1, toData e.2))).written.dictionary read =
      pure (d.map fun _ a => f a) := by
  let readEntry : Node × Node → Read (String × α) := fun e => do pure (← e.1.text, ← read e.2)
  have hentry : ∀ e ∈ d.entries,
      readEntry ((Data.string e.1).written, (toData e.2).written) = pure (e.1, f e.2) := by
    intro e he
    change (do pure (← (Data.string e.1).written.text, ← read (toData e.2).written)) = _
    rw [text_written, pure_bind, h e he, pure_bind]
  have hentries := mapM_map_eq_pure hentry
  have hsorted : Dict.ofList (d.entries.map fun e => (e.1, f e.2)) = d.map fun _ a => f a :=
    Dict.ext_entries (Entries.ofList_of_sorted (d.map fun _ a => f a).sorted)
  have hnodes : Data.writtenEntries (d.entries.map fun e => (.string e.1, toData e.2)) =
      d.entries.map fun e => ((Data.string e.1).written, (toData e.2).written) := by
    rw [writtenEntries_eq_map, List.map_map]
    rfl
  change ((Data.writtenEntries _).mapM readEntry >>= fun es => pure (Dict.ofList es)) = _
  rw [hnodes, hentries, pure_bind, hsorted]

/-! ## Records -/

/-- The entries of a record, of which those without a value are left out. -/
def recordEntries (fields : List (String × Option Data)) : List (Data × Data) :=
  fields.filterMap fun (name, d) => d.map (.string name, ·)

theorem recordEntries_append (fs gs : List (String × Option Data)) :
    recordEntries (fs ++ gs) = recordEntries fs ++ recordEntries gs := List.filterMap_append

/-- A record is made of what its fields are made of. -/
theorem fulfils_recordEntries {c : Data.Condition} {fields : List (String × Option Data)}
    (htext : ∀ s, c.text s) (h : ∀ f ∈ fields, ∀ d ∈ f.2, d.Fulfils c) :
    (Data.mapping (recordEntries fields)).Fulfils c := by
  have hentry : ∀ e ∈ recordEntries fields, e.1.Fulfils c ∧ e.2.Fulfils c := by
    intro e he
    obtain ⟨f, hf, hsome⟩ := List.mem_filterMap.1 he
    obtain ⟨d, hd, rfl⟩ := Option.map_eq_some_iff.1 hsome
    exact ⟨.string (htext _), h f hf d hd⟩
  exact .mapping (fun e he => (hentry e he).1) fun e he => (hentry e he).2

theorem fulfils_texts {c : Data.Condition} (htext : ∀ s, c.text s) (ts : List String) :
    (Data.sequence (ts.map .string)).Fulfils c :=
  .sequence (List.forall_mem_map.2 fun t _ => .string (htext t))

/-- The nodes under the names of a record. -/
def recordNodes (fields : List (String × Option Data)) : Record :=
  fields.filterMap fun (name, d) => d.map fun d => (name, d.written)

theorem collectFields_written {known : List String} :
    ∀ {fields : List (String × Option Data)} {acc : Record}, (∀ f ∈ fields, f.1 ∈ known) →
      (fields.map (·.1)).Nodup → (∀ e ∈ acc, ∀ f ∈ fields, e.1 ≠ f.1) →
      collectFields known acc (Data.writtenEntries (recordEntries fields)) =
        pure ((recordNodes fields).reverse ++ acc)
  | [], acc, _, _, _ => rfl
  | (_, none) :: fields, acc, hknown, hnodup, hnew =>
      @collectFields_written known fields acc (fun f hf => hknown f (List.mem_cons_of_mem _ hf))
        (List.nodup_cons.1 hnodup).2 fun e he f hf => hnew e he f (List.mem_cons_of_mem _ hf)
  | (name, some d) :: fields, acc, hknown, hnodup, hnew => by
      have hmem : (name, some d) ∈ (name, some d) :: fields := List.mem_cons_self ..
      have hcontains : known.contains name = true := by simpa using hknown _ hmem
      have hany : acc.any (·.1 == name) = false := by
        rw [List.any_eq_false]
        intro e he
        simpa using hnew e he _ hmem
      obtain ⟨hname, hnodup⟩ := List.nodup_cons.1 hnodup
      have hrest := @collectFields_written known fields ((name, d.written) :: acc)
        (fun f hf => hknown f (List.mem_cons_of_mem _ hf)) hnodup fun e he f hf => by
          rcases List.mem_cons.1 he with rfl | he
          · exact fun heq => hname (List.mem_map.2 ⟨f, hf, heq.symm⟩)
          · exact hnew e he f (List.mem_cons_of_mem _ hf)
      have hentries : recordEntries ((name, some d) :: fields) =
          (.string name, d) :: recordEntries fields := rfl
      have hnodes : recordNodes ((name, some d) :: fields) =
          (name, d.written) :: recordNodes fields := rfl
      rw [hentries, Data.writtenEntries, collectFields, text_written, pure_bind, hnodes,
        List.reverse_cons, List.append_assoc, List.singleton_append, ← hrest]
      simp only [hcontains, hany, Bool.not_true, Bool.false_eq_true, if_false]

/-- Under a name there is the node of its field, if the field has a value. -/
theorem find?_recordNodes {fields : List (String × Option Data)} (hnodup : (fields.map (·.1)).Nodup)
    {name : String} {d : Option Data} (h : (name, d) ∈ fields) :
    Record.find? (recordNodes fields).reverse name = d.map Data.written := by
  have honly : ∀ e ∈ (recordNodes fields).reverse, e.1 = name → d.map Data.written = some e.2 := by
    intro e he hname
    obtain ⟨⟨name', d'⟩, hmem, hsome⟩ := List.mem_filterMap.1 (List.mem_reverse.1 he)
    obtain ⟨d'', rfl, rfl⟩ := Option.map_eq_some_iff.1 hsome
    obtain rfl : name' = name := hname
    have hsame := List.inj_on_of_nodup_map hnodup hmem h rfl
    rw [← (Prod.mk.inj hsame).2]
    rfl
  rw [Record.find?]
  cases hfind : List.find? (·.1 == name) (recordNodes fields).reverse with
  | some e =>
      exact (honly e (List.mem_of_find?_eq_some hfind) (by simpa using List.find?_some hfind)).symm
  | none =>
      cases d with
      | none => rfl
      | some d =>
          have hmem : (name, d.written) ∈ (recordNodes fields).reverse :=
            List.mem_reverse.2 (List.mem_filterMap.2 ⟨_, h, rfl⟩)
          exact absurd (List.find?_eq_none.1 hfind _ hmem) (by simp)

/-- The fields of a record are found under their names. -/
theorem record_written {d : Data} {fields : List (String × Option Data)} {known : List String}
    (hd : d = .mapping (recordEntries fields)) (hnodup : known.Nodup)
    (hknown : fields.map (·.1) = known) :
    ∃ r : Record, d.written.record known = pure r ∧ ∀ f ∈ fields,
      r.find? f.1 = f.2.map Data.written := by
  subst hd hknown
  refine ⟨(recordNodes fields).reverse, ?_, fun f hf => find?_recordNodes hnodup hf⟩
  have hcollect := @collectFields_written (fields.map (·.1)) fields []
    (fun f hf => List.mem_map_of_mem hf) hnodup (List.forall_mem_nil _)
  rw [List.append_nil] at hcollect
  exact hcollect

section Record

variable {r : Record} {name : String} {toData : β → Data} {b : Option β}

theorem required_written {toData : α → Data} {a : α}
    (hfind : r.find? name = some (toData a).written)
    (hread : read (toData a).written = pure a) : r.required name read = pure a := by
  rw [Record.required, hfind]
  exact hread

/-- A field that is not written unless it has a value. -/
theorem withDefault_written {a default : α} (hfind : r.find? name = (b.map toData).map Data.written)
    (hsome : ∀ v, b = some v → read (toData v).written = pure a) (hnone : b = none → a = default) :
    r.withDefault name default read = pure a := by
  rw [Record.withDefault, hfind]
  cases b with
  | none => rw [hnone rfl]; rfl
  | some v => exact hsome v rfl

/-- A field that is always written. -/
theorem always_written {a default : α} {v : β}
    (hfind : r.find? name = ((some v).map toData).map Data.written)
    (hread : read (toData v).written = pure a) : r.withDefault name default read = pure a :=
  withDefault_written hfind (fun _ hv => Option.some.inj hv ▸ hread) nofun

theorem optional_written {toData : α → Data} {a : Option α}
    (hfind : r.find? name = (a.map toData).map Data.written)
    (hread : ∀ v, a = some v → IsGiven (toData v).written ∧ read (toData v).written = pure v) :
    r.optional name read = pure a := by
  refine withDefault_written hfind (fun v hv => ?_) id
  rw [hv]
  exact optional_of_isGiven (hread v hv).1 (hread v hv).2

end Record

end WorkItems.Yaml
