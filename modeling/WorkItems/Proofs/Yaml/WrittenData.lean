import WorkItems.Proofs.Yaml.PrintedData
import WorkItems.Proofs.Yaml.ReadData
import WorkItems.Proofs.Yaml.Reals
/-!
# What written data says

Data that was read says, once it is written, what it said before. Its tags have to be writable for
that, and none of its numbers may be a NaN.
-/

namespace WorkItems.Yaml

/-! ## Conditions -/

/-- Data without a NaN. -/
def noNaN : Data.Condition where
  number n := ∀ x, n = .float x → Decimal.isNaN x = false
  text _ := True
  tag _ _ := True

/-- Data with writable tags. -/
def writableTags : Data.Condition where
  number _ := True
  text _ := True
  tag tag _ := IsWritable tag

/-- Parts of data that are read as they are written. -/
def readable : Data.Condition where
  number := noNaN.number
  text _ := True
  tag := writable.tag

theorem Data.Fulfils.writable {d : Data} (h : d.Fulfils readable) : d.Fulfils writable :=
  h.imp (fun _ _ => trivial) (fun _ _ => trivial) fun _ _ h => h

/-- Nothing that is read has two tags. -/
theorem IsRead.readable {depth : Nat} {d : Data} (h : IsRead depth d) (hnumbers : d.Fulfils noNaN)
    (htags : d.Fulfils writableTags) : d.Fulfils readable := by
  induction h with
  | null => exact .null
  | bool => exact .bool
  | number _ =>
      cases hnumbers with
      | number hn => exact .number hn
  | string => exact .string trivial
  | sequence _ ih =>
      cases hnumbers with
      | sequence hnumbers =>
          cases htags with
          | sequence htags => exact .sequence fun d hd => ih d hd (hnumbers d hd) (htags d hd)
  | mapping _ _ _ ihk ihv =>
      cases hnumbers with
      | mapping hkeys hvalues =>
          cases htags with
          | mapping hkeys' hvalues' =>
              exact .mapping (fun e he => ihk e he (hkeys e he) (hkeys' e he))
                fun e he => ihv e he (hvalues e he) (hvalues' e he)
  | tagged hsingle _ ih =>
      cases hnumbers with
      | tagged _ hnumbers =>
          cases htags with
          | tagged htag htags => exact .tagged ⟨htag, hsingle⟩ (ih hnumbers htags)

/-! ## Scalars -/

theorem resolve_numberText {n : Number} (h : IsReadNumber n) (hn : noNaN.number n) :
    resolve (numberText n).toList = .number n := by
  cases n with
  | int i =>
      rw [numberText, Decimal.intText, String.toList_ofList]
      exact resolve_int i
  | uint u =>
      rw [numberText, Decimal.natText, String.toList_ofList]
      exact resolve_uint h
  | float x => exact resolve_realText (hn x rfl)

/-! ## Tags -/

theorem data_eq_scalarData (depth : Nat) (p : Properties) (style : Style) (text : String) :
    (Node.scalar p style text).data depth = scalarData p style text := by
  cases depth <;> rfl

section Tagged

variable {depth : Nat} {tag : String} {d : Data}

theorem keptTag?_mark (tag : String) : keptTag? ⟨none, some ("!" ++ tag)⟩ = some tag := by
  simp [keptTag?]

theorem bareTag_of_isWritable (h : IsWritable tag) : Data.bareTag tag = tag := by
  rw [Data.bareTag]
  split
  · rename_i htag
    exact absurd (by rw [htag]; rfl) h.noMark
  · rfl

/-- A tag in front of a scalar is put around its data. -/
theorem Says.taggedScalar {style : Style} {text : String} (htag : IsWritable tag)
    (h : Says depth (.scalar .none style text) d) :
    Says depth (.scalar ⟨none, some ("!" ++ tag)⟩ style text) (.tagged tag d) := by
  intro document jumps
  have huntagged : scalarData.untagged style text document jumps = .ok (d, jumps) := by
    rw [← h document jumps, data_eq_scalarData]
    rfl
  rw [data_eq_scalarData]
  simp only [scalarData, keptTag?_mark, bareTag_of_isWritable htag, Functor.map, StateT.map, bind,
    Except.bind, huntagged]
  rfl

theorem withTag_mark (htag : IsWritable tag) (d : Data) :
    withTag ⟨none, some ("!" ++ tag)⟩ d = pure (.tagged tag d) := by
  rw [withTag, keptTag?_mark]
  simp only [htag.ne_empty, String.isEmpty_iff, if_false, bareTag_of_isWritable htag]

/-! ## Collections -/

theorem data_sequence (depth : Nat) (p : Properties) (ns : List Node) :
    (Node.sequence p ns).data (depth + 1) =
      ns.mapM (Node.data depth) >>= fun ds => withTag p (.sequence ds) := rfl

theorem data_mappingOf (depth : Nat) (p : Properties) (es : List (Node × Node)) :
    (Node.mapping p es).data (depth + 1) =
      readEntries (Node.data depth) [] es >>= fun ds => withTag p (.mapping ds) := rfl

theorem saysItems_written {ds : List Data} (h : ∀ d ∈ ds, Says depth d.written d) :
    SaysItems depth (Data.writtenItems ds) ds := by
  induction ds with
  | nil => exact saysItems_nil
  | cons d ds ih =>
      exact SaysItems.cons (h d (List.mem_cons_self ..))
        (ih fun e he => h e (List.mem_cons_of_mem _ he))

/-- Entries whose keys differ are read one after the other. -/
theorem readEntries_written {es : List (Data × Data)} (hkey : ∀ e ∈ es, Says depth e.1.written e.1)
    (hvalue : ∀ e ∈ es, Says depth e.2.written e.2) (document : Document) (jumps : Nat) :
    ∀ before : List (Data × Data), KeysDiffer (before.reverse ++ es) →
      readEntries (Node.data depth) before (Data.writtenEntries es) document jumps =
        .ok (before.reverse ++ es, jumps) := by
  induction es with
  | nil =>
      intro before _
      rw [Data.writtenEntries, readEntries, List.append_nil]
      rfl
  | cons e es ih =>
      intro before hdiffer
      obtain ⟨k, v⟩ := e
      have hmem : (k, v) ∈ (k, v) :: es := List.mem_cons_self ..
      have hnew : ∀ e ∈ before, e.1.sameKey k = false := fun e he =>
        (List.pairwise_append.1 hdiffer).2.2 e (List.mem_reverse.2 he) (k, v) hmem
      have hrest := ih (fun e he => hkey e (List.mem_cons_of_mem _ he))
        (fun e he => hvalue e (List.mem_cons_of_mem _ he)) ((k, v) :: before)
        (by simpa using hdiffer)
      rw [Data.writtenEntries, readEntries_cons (hkey _ hmem) hnew, hvalue _ hmem document jumps]
      simpa [Except.bind] using hrest

end Tagged

/-! ## Data -/

/-- What data says once it is written, and with a tag in front if it has none. -/
structure SaysItself (depth : Nat) (d : Data) : Prop where
  alone : Says depth d.written d
  tagged (tag : String) : d.isTagged = false → IsWritable tag →
    Says depth (d.written.tagged ("!" ++ tag)) (.tagged tag d)

theorem saysItself_scalar {depth : Nat} {d : Data} {style : Style} {text : String}
    (hwritten : d.written = .scalar .none style text)
    (h : Says depth (.scalar .none style text) d) :
    SaysItself depth d where
  alone := by rwa [hwritten]
  tagged tag _ htag := by
    rw [hwritten]
    exact h.taggedScalar htag

theorem saysItself {depth : Nat} {d : Data} (h : IsRead depth d) (hreadable : d.Fulfils readable) :
    SaysItself depth d := by
  induction h with
  | null => exact saysItself_scalar rfl (says_plain rfl)
  | @bool _ b => exact saysItself_scalar rfl (says_plain (by cases b <;> rfl))
  | @number _ n hn =>
      cases hreadable with
      | number hnumber =>
          exact saysItself_scalar rfl (says_plain (by rw [resolve_numberText hn hnumber]; rfl))
  | string => exact saysItself_scalar rfl (says_styleOf _)
  | @sequence depth ds _ ih =>
      cases hreadable with
      | sequence hreadable =>
          have hitems := saysItems_written fun d hd => (ih d hd (hreadable d hd)).alone
          refine ⟨says_sequence hitems, fun tag _ htag document jumps => ?_⟩
          change (Node.sequence ⟨none, some ("!" ++ tag)⟩ (Data.writtenItems ds)).data (depth + 1)
            document jumps = _
          rw [data_sequence]
          simp only [bind, ReaderT.bind, StateT.bind, Except.bind, hitems document jumps,
            withTag_mark htag]
          rfl
  | @mapping depth es hdiffer _ _ ihk ihv =>
      cases hreadable with
      | mapping hkeys hvalues =>
          have hentries := fun document jumps => readEntries_written
            (fun e he => (ihk e he (hkeys e he)).alone)
            (fun e he => (ihv e he (hvalues e he)).alone)
            document jumps [] hdiffer
          refine ⟨fun document jumps => ?_, fun tag _ htag document jumps => ?_⟩
          · rw [Data.written, data_mapping, hentries]
            rfl
          · change (Node.mapping ⟨none, some ("!" ++ tag)⟩ (Data.writtenEntries es)).data
              (depth + 1)
              document jumps = _
            rw [data_mappingOf]
            simp only [bind, ReaderT.bind, StateT.bind, Except.bind, hentries document jumps,
              withTag_mark htag]
            rfl
  | tagged hsingle _ ih =>
      cases hreadable with
      | tagged htag hreadable =>
          exact ⟨(ih hreadable).tagged _ hsingle htag.1, fun _ htagged => nomatch htagged⟩

/-- Data that was read is read as it was from the node that it is written as. -/
theorem data_written {depth : Nat} {d : Data} (h : IsRead depth d)
    (hreadable : d.Fulfils readable) :
    d.written.data depth = pure d :=
  funext fun document => funext fun jumps => (saysItself h hreadable).alone document jumps

end WorkItems.Yaml
