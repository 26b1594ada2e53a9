import WorkItems.Proofs.FrontMatter.KeptEntries
import WorkItems.Proofs.Yaml.WrittenRecords
/-!
# The two readings of a block

A block is read twice. Once it is data, with plain scalars resolved and tags kept; and once it is a
record of texts, which keep the characters of their scalars and are left out for null. The five
fields of an item come from the second reading, and all that is known of its other fields comes from
the first one.

Both go through the entries of one mapping, the first with the data of the keys and the second with
their texts. A key with the text of one of the five names is that text as data too, unless it has a
tag, and a value without a tag says the same in both. With tags the readings differ: `!!float 5` is
not the integer that its text is.
-/

namespace WorkItems

/-! ## Entries with the names of the five -/

namespace Yaml.Document

/-- The entries of a document that is a mapping. -/
def entries (d : Yaml.Document) : List (Node × Node) :=
  match d.meant? (d.root.getD .absent) with
  | some (.mapping _ entries) => entries
  | _ => []

/-- What the node stands for has no tag; an alias has the tag of its node. -/
def IsUntagged (d : Yaml.Document) (n : Node) : Prop :=
  ∀ m, d.meant? n = some m → m.properties.tag = none

/--
No entry with the name of one of the five fields has a tag, neither at the name nor at the value.
-/
def CoreUntagged (d : Yaml.Document) : Prop :=
  ∀ e ∈ d.entries, ∀ field : CoreField, d.HasText e.1 field.name →
    d.IsUntagged e.1 ∧ d.IsUntagged e.2

end Yaml.Document

namespace FrontMatter

open Yaml

variable {document : Yaml.Document} {n : Node}

/-! ## What a text says -/

/-- A field with this text says the same as the data. -/
def SaysAs (text : String) : Data → Prop
  | .null => text = ""
  | .string s => text = s
  | .bool b => resolve text.toList = .bool b
  | .number n => resolve text.toList = .number n
  | .sequence _ | .mapping _ | .tagged _ _ => False

theorem scalarData_untagged {p : Properties} (h : p.tag = none) (style : Style) (text : String) :
    scalarData p style text = scalarData.untagged style text := by
  rw [scalarData, keptTag?, h]
  rfl

theorem isMissing_untagged {p : Properties} (h : p.tag = none) (style : Style) (text : String) :
    isMissing p style text =
      pure (style == .plain && (text.isEmpty || isNullText text.toList)) := by
  rw [isMissing, h]
  cases style <;> rfl

/-- Without a tag a scalar says the same in both readings, and it is missing only if it is null. -/
theorem says_untagged {p : Properties} {style : Style} {text : String} {data : Data}
    {missing : Bool} (htag : p.tag = none) (hdata : GivesIn document (scalarData p style text) data)
    (hmissing : GivesIn document (isMissing p style text) missing) :
    SaysAs ((if missing then none else some text).getD "") data ∧
    (data ≠ .null → missing = false) := by
  rw [scalarData_untagged htag, scalarData.untagged] at hdata
  rw [isMissing_untagged htag] at hmissing
  obtain rfl := givesIn_pure hmissing
  by_cases hstyle : (style == .plain) = true
  -- A plain scalar is left out exactly if it resolves to null.
  · rw [if_pos hstyle, resolved] at hdata
    have hnull : (text.isEmpty || isNullText text.toList) = true ↔ resolve text.toList = .null := by
      rw [resolve_eq_null_iff]
      simp
    rw [hstyle, Bool.true_and]
    cases hresolve : resolve text.toList with
    | null =>
        rw [hresolve] at hdata
        obtain rfl := givesIn_pure hdata
        rw [hnull.2 hresolve]
        exact ⟨rfl, fun hne => absurd rfl hne⟩
    | oversized =>
        rw [hresolve] at hdata
        exact absurd hdata not_givesIn_fail
    | _ =>
        rw [hresolve] at hdata hnull
        obtain rfl := givesIn_pure hdata
        rw [Bool.eq_false_iff.2 fun h => Resolved.noConfusion (hnull.1 h)]
        first
        | exact ⟨hresolve, fun _ => rfl⟩
        | exact ⟨rfl, fun _ => rfl⟩
  -- Any other scalar is its text in both readings, even an empty one or one that looks like null.
  · rw [if_neg hstyle] at hdata
    obtain rfl := givesIn_pure hdata
    rw [Bool.eq_false_iff.2 hstyle, Bool.false_and]
    exact ⟨rfl, fun _ => rfl⟩

/-- The data of a value without a tag, and the text of the field that it is read for. -/
theorem says_value {depth : Nat} {data : Data} {o : Option String} (htag : document.IsUntagged n)
    (hdata : GivesIn document (n.data depth) data)
    (ho : GivesIn document (Node.optional Node.text n) o) :
    SaysAs (o.getD "") data ∧ (data ≠ .null → document.HasText n (o.getD "")) := by
  obtain ⟨m, hm, hdata⟩ := givesIn_data hdata
  cases hdata with
  | scalar hdata =>
      obtain ⟨missing, hmissing, rfl⟩ := givesIn_optional_scalar hm ho
      obtain ⟨hagrees, hgiven⟩ := says_untagged (htag _ hm) hdata hmissing
      refine ⟨hagrees, fun hne => ?_⟩
      rw [hgiven hne]
      exact ⟨_, _, hm⟩
  | sequence _ => exact absurd ho (not_givesIn_optional hm trivial)
  | mapping _ _ => exact absurd ho (not_givesIn_optional hm trivial)

/-- Without a tag one of the five names is read as itself. -/
theorem data_of_name {depth : Nat} {data : Data} {field : CoreField} (htag : document.IsUntagged n)
    (hname : document.HasText n field.name) (hdata : GivesIn document (n.data depth) data) :
    data = .string field.name := by
  obtain ⟨p, style, hm, hdata⟩ := givesIn_scalarData hname hdata
  have hnone : p.tag = none := htag _ hm
  rw [scalarData_untagged hnone, scalarData.untagged] at hdata
  split at hdata
  · have hstring : resolve field.name.toList = .string := by cases field <;> rfl
    rw [resolved, hstring] at hdata
    exact (givesIn_pure hdata).symm
  · exact (givesIn_pure hdata).symm

/-! ## The texts of the five -/

theorem exists_of_forall₂ {α β : Type} {R : α → β → Prop} {as : List α} {bs : List β}
    (h : List.Forall₂ R as bs) {a : α} (ha : a ∈ as) : ∃ b ∈ bs, R a b := by
  induction h with
  | nil => cases ha
  | @cons a' b as bs hab _ ih =>
      rcases List.mem_cons.1 ha with rfl | ha
      · exact ⟨b, List.mem_cons_self .., hab⟩
      · obtain ⟨b', hb, hr⟩ := ih ha
        exact ⟨b', List.mem_cons_of_mem _ hb, hr⟩

/-- Each of the five texts is read from the record by the name of its field. -/
theorem givesIn_readCore {block : String} {core : CoreField → String}
    (h : readCore block = .ok core) : ∃ document r, Yaml.Document.ofText block = .ok document ∧
      GivesIn document ((document.root.getD .absent).record (CoreField.all.map CoreField.name)) r ∧
      ∀ field : CoreField, ∃ o, GivesIn document (r.optional field.name Node.text) o ∧
        core field = o.getD "" := by
  obtain ⟨document, hdocument, hread⟩ := givesIn_of_readText h
  obtain ⟨r, hr, hread⟩ := givesIn_bind hread
  obtain ⟨texts, htexts, hread⟩ := givesIn_bind hread
  obtain rfl := givesIn_pure hread
  refine ⟨document, r, hdocument, hr, fun field => ?_⟩
  have htexts : List.Forall₂ (fun f t => ∃ o,
      GivesIn document (r.optional f.name Node.text) o ∧ (f, o.getD "") = t) CoreField.all
        texts := by
    refine (givesIn_mapM htexts).imp fun f t ht => ?_
    obtain ⟨o, ho, ht⟩ := givesIn_bind ht
    exact ⟨o, ho, givesIn_pure ht⟩
  obtain ⟨t, hfind, hfield⟩ : ∃ t, texts.find? (·.1 == field) = some t ∧ t.1 = field := by
    obtain ⟨t, ht, o, -, heq⟩ := exists_of_forall₂ htexts (mem_all field)
    obtain ⟨u, hu⟩ : ∃ u, texts.find? (·.1 == field) = some u := by
      rw [← Option.isSome_iff_exists, List.find?_isSome]
      exact ⟨t, ht, by rw [← heq]; exact beq_self_eq_true field⟩
    exact ⟨u, hu, by simpa using List.find?_some hu⟩
  obtain ⟨f, -, o, ho, heq⟩ := exists_of_forall₂ htexts.flip (List.mem_of_find?_eq_some hfind)
  obtain rfl : f = field := (congrArg Prod.fst heq).trans hfield
  refine ⟨o, ho, ?_⟩
  change (texts.find? (·.1 == f)).elim "" (·.2) = _
  rw [hfind, ← heq]
  rfl

/-- What the two readings of a block take from the entries of its nodes. -/
structure AreReadings (document : Yaml.Document) (es : List (Data × Data))
    (core : CoreField → String) : Prop where
  data : List.Forall₂ (fun n d => GivesIn document (n.1.data 127) d.1 ∧
    GivesIn document (n.2.data 127) d.2) document.entries es
  names : ∀ n ∈ document.entries, ∃ name, document.HasText n.1 name
  absent : ∀ field : CoreField, (∀ n ∈ document.entries, ¬document.HasText n.1 field.name) →
    core field = ""
  written : ∀ field : CoreField, ∀ n ∈ document.entries, document.HasText n.1 field.name →
    ∃ o, GivesIn document (Node.optional Node.text n.2) o ∧ core field = o.getD ""

theorem areReadings {block : String} {es : List (Data × Data)} {core : CoreField → String}
    (hdata : Data.ofText block = .ok (.mapping es)) (hcore : readCore block = .ok core) :
    ∃ document, Yaml.Document.ofText block = .ok document ∧ AreReadings document es core := by
  obtain ⟨document, r, hdocument, hrecord, hfields⟩ := givesIn_readCore hcore
  obtain ⟨p, nodes, hroot, hnodes⟩ := meant?_root hdocument hdata
  have hentries : document.entries = nodes := by rw [Yaml.Document.entries, hroot]
  have hcollect := givesIn_record hroot hrecord
  have hnodup := nodup_collectFields hcollect List.nodup_nil
  have hmem : ∀ (field : CoreField) (v : Node), (field.name, v) ∈ r ↔
      ∃ k, (k, v) ∈ nodes ∧ document.HasText k field.name := by
    intro field v
    rw [mem_collectFields hcollect _ (List.mem_map_of_mem (mem_all field)) v,
      or_iff_right List.not_mem_nil]
  obtain ⟨texts, htexts, -⟩ := givesIn_collectFields hcollect List.nodup_nil
  refine ⟨document, hdocument, hentries ▸ hnodes, fun n hn => ?_, fun field hnone => ?_,
    fun field n hn hname => ?_⟩
  · obtain ⟨name, -, hname⟩ := exists_of_forall₂ htexts (hentries ▸ hn)
    exact ⟨name, hname⟩
  · obtain ⟨o, ho, heq⟩ := hfields field
    rw [heq]
    have hfind : r.find? field.name = none := by
      refine Option.eq_none_iff_forall_ne_some.2 fun v hv => ?_
      obtain ⟨k, hk, hname⟩ := (hmem field v).1 ((Record.find?_eq_some_iff hnodup).1 hv)
      exact hnone (k, v) (hentries ▸ hk) hname
    rw [Record.optional, Record.withDefault, hfind] at ho
    obtain rfl := givesIn_pure ho
    rfl
  · obtain ⟨o, ho, heq⟩ := hfields field
    have hfind : r.find? field.name = some n.2 :=
      (Record.find?_eq_some_iff hnodup).2 ((hmem field n.2).2 ⟨n.1, hentries ▸ hn, hname⟩)
    rw [Record.optional, Record.withDefault, hfind] at ho
    exact ⟨o, ho, heq⟩

/-! ## Both readings -/

namespace AreReadings

variable {es : List (Data × Data)} {core : CoreField → String} {field : CoreField}

/-- An entry of the data with one of the five names comes from one of the record. -/
theorem exists_entry (h : AreReadings document es core) {e : Data × Data} (he : e ∈ es)
    (hname : (ofData e.1).display = field.name) :
    ∃ n ∈ document.entries, document.HasText n.1 field.name ∧
    GivesIn document (n.2.data 127) e.2 := by
  obtain ⟨n, hn, hkey, hvalue⟩ := exists_of_forall₂ h.data.flip he
  obtain ⟨name, htext⟩ := h.names n hn
  obtain ⟨p, style, -, hscalar⟩ := givesIn_scalarData htext hkey
  refine ⟨n, hn, ?_, hvalue⟩
  rcases display_scalarData hscalar with heq | hother
  · rwa [← hname, heq]
  · rw [hname, isCoreName_name] at hother
    cases hother

theorem core_eq_empty (h : AreReadings document es core) (htags : document.CoreUntagged)
    (hnone : ∀ v, (.string field.name, v) ∉ es) : core field = "" := by
  refine h.absent field fun n hn hname => ?_
  obtain ⟨⟨k, v⟩, hmem, hkey, -⟩ := exists_of_forall₂ h.data hn
  obtain rfl := data_of_name (htags n hn field hname).1 hname hkey
  exact hnone v hmem

theorem saysAs_core (h : AreReadings document es core) (htags : document.CoreUntagged) {v : Data}
    (hmem : (.string field.name, v) ∈ es) : SaysAs (core field) v ∧
      (v ≠ .null → ∃ n ∈ document.entries, document.HasText n.1 field.name ∧
        document.HasText n.2 (core field)) := by
  obtain ⟨n, hn, hname, hvalue⟩ := h.exists_entry hmem rfl
  obtain ⟨o, ho, heq⟩ := h.written field n hn hname
  obtain ⟨hagrees, hgiven⟩ := says_value (htags n hn field hname).2 hvalue ho
  rw [heq]
  exact ⟨hagrees, fun hne => ⟨n, hn, hname, hgiven hne⟩⟩

theorem not_isCollection (h : AreReadings document es core) {e : Data × Data} (he : e ∈ es)
    (hname : (ofData e.1).display = field.name) : ¬e.2.IsCollection := by
  intro hcollection
  obtain ⟨n, hn, hname, hvalue⟩ := h.exists_entry he hname
  obtain ⟨o, ho, -⟩ := h.written field n hn hname
  obtain ⟨m, hm, hdata⟩ := givesIn_data hvalue
  exact not_givesIn_optional hm (hdata.isCollection_iff.1 hcollection) ho

end AreReadings

/-! ## Items -/

/--
What is known of a block that is read: it says nothing, or both readings of it are in the item.
-/
theorem core_of_readItem {block : String} {item : Item} {es : List (Data × Data)}
    (h : readItem block = .ok item) (hes : HasEntries block es) :
    (es = [] ∧ item = Item.empty) ∨
      ∃ document, Yaml.Document.ofText block = .ok document ∧
      AreReadings document es item.core := by
  rw [readItem] at h
  cases hes with
  | blank hblank =>
      rw [if_pos hblank] at h
      cases h
      exact .inl ⟨rfl, rfl⟩
  | nothing hblank hdata =>
      rw [hblank, if_neg Bool.false_ne_true, hdata] at h
      cases h
      exact .inl ⟨rfl, rfl⟩
  | mapping hblank hdata =>
      rw [hblank, if_neg Bool.false_ne_true, hdata] at h
      cases hcore : readCore block with
      | error e =>
          simp only [hcore] at h
          cases h
      | ok core =>
          simp only [hcore] at h
          cases h
          refine .inr ?_
          obtain ⟨document, hdocument, hreadings⟩ := areReadings hdata hcore
          refine ⟨document, hdocument, ?_⟩
          have hsame : core = Item.core ⟨core .id, core .title, core .status, core .kind,
              core .created, configurable (ofDataEntries es)⟩ := by
            funext field
            cases field <;> rfl
          exact hsame ▸ hreadings

/--
What an item has in its five fields is what the data of its block has under their names, as long as
these entries have no tags: nothing if there is none or null, and otherwise the characters of the
value, which say the same as the data does. A sequence or a mapping under one of the names is
refused, with a tag or without.
-/
theorem readings_agree :
    (∀ block item, readItem block = .ok item →
      (∀ document, Yaml.Document.ofText block = .ok document → document.CoreUntagged) →
      (∃ es, HasEntries block es) ∧ ∀ es, HasEntries block es → ∀ field : CoreField,
        ((∀ v, (.string field.name, v) ∉ es) → item.core field = "") ∧
        ∀ v, (.string field.name, v) ∈ es → SaysAs (item.core field) v ∧
          (v ≠ .null → ∃ document, Yaml.Document.ofText block = .ok document ∧
            ∃ n ∈ document.entries, document.HasText n.1 field.name ∧
              document.HasText n.2 (item.core field))) ∧
    ∀ block es (field : CoreField) (e : Data × Data), HasEntries block es → e ∈ es →
      (ofData e.1).display = field.name → e.2.IsCollection →
      ∃ cause, readItem block = .error (.notScalar cause) := by
  constructor
  · intro block item h htags
    obtain ⟨es, hsome, -⟩ := hasEntries_of_readItem h
    refine ⟨⟨es, hsome⟩, fun es hes field => ?_⟩
    rcases core_of_readItem h hes with ⟨rfl, rfl⟩ | ⟨document, hdocument, hreadings⟩
    · exact ⟨fun _ => by cases field <;> rfl, fun v hv => nomatch hv⟩
    · have htags := htags document hdocument
      refine ⟨hreadings.core_eq_empty htags, fun v hv => ?_⟩
      obtain ⟨hagrees, hwritten⟩ := hreadings.saysAs_core htags hv
      exact ⟨hagrees, fun hne => ⟨document, hdocument, hwritten hne⟩⟩
  · intro block es field e hes he hname hcollection
    cases hes with
    | blank _ => cases he
    | nothing _ _ => cases he
    | mapping hblank hdata =>
        cases hcore : readCore block with
        | error cause =>
            refine ⟨cause, ?_⟩
            rw [readItem, hblank, if_neg Bool.false_ne_true, hdata]
            simp only [hcore]
        | ok core =>
            obtain ⟨document, -, hreadings⟩ := areReadings hdata hcore
            exact absurd hcollection (hreadings.not_isCollection he hname)

/--
A block with a number, null, a text that looks like a number and comes through an alias, and a flag.
-/
def lookAlikes : String := "note: &n \"5\"\nid: 0x1F\ntitle: ~\nstatus: *n\nkind: true\n"

/-- The texts among such entries. -/
def lookAlikeTexts : List (Data × Data) → Option (List String)
  | [(.string note, .string noted), (.string id, .number _), (.string title, .null),
      (.string status, .string text), (.string kind, .bool true)] =>
    some [note, noted, id, title, status, text, kind]
  | _ => none

theorem eq_of_lookAlikeTexts {es : List (Data × Data)}
    (h : lookAlikeTexts es = some ["note", "5", "id", "title", "status", "5", "kind"]) :
    ∃ n, es = [(.string "note", .string "5"), (.string "id", .number n), (.string "title", .null),
      (.string "status", .string "5"), (.string "kind", .bool true)] := by
  rw [lookAlikeTexts.eq_def] at h
  split at h
  · cases h
    exact ⟨_, rfl⟩
  · cases h

/-- Whether all nodes of a document's entries are without tags. -/
def hasNoTags (document : Yaml.Document) : Bool :=
  document.entries.all fun e => [e.1, e.2].all fun n =>
    (document.meant? n).all (·.properties.tag.isNone)

theorem coreUntagged_of_hasNoTags (h : hasNoTags document = true) : document.CoreUntagged := by
  intro e he field _
  have hnodes := List.all_eq_true.1 (List.all_eq_true.1 h e he)
  have huntagged : ∀ n ∈ [e.1, e.2], document.IsUntagged n := by
    intro n hn m hm
    have htag := hnodes n hn
    rw [hm, Option.all_some] at htag
    exact Option.isNone_iff_eq_none.1 htag
  exact ⟨huntagged e.1 (by simp), huntagged e.2 (by simp)⟩

/--
The item keeps what is written for the number and says the same as the data; a sequence is refused.
-/
theorem readings_agree_lookAlikes :
    ∃ item es n, readItem lookAlikes = .ok item ∧ HasEntries lookAlikes es ∧
      (.string "id", .number n) ∈ es ∧ item.core .id = "0x1F" ∧
      resolve (item.core .id).toList = .number n ∧
      (.string "title", .null) ∈ es ∧ item.core .title = "" ∧
      (.string "status", .string "5") ∈ es ∧ item.core .status = "5" ∧
      (.string "kind", .bool true) ∈ es ∧ resolve (item.core .kind).toList = .bool true ∧
      (∀ v, (.string "created", v) ∉ es) ∧ item.core .created = "" ∧
      ∃ cause, readItem "id: [1]\n" = .error (.notScalar cause) := by
  have hentries : ((Data.ofText lookAlikes).toOption.bind entriesOf?).map lookAlikeTexts =
      some (some ["note", "5", "id", "title", "status", "5", "kind"]) := by decide +kernel
  have hdocument : (Yaml.Document.ofText lookAlikes).toOption.map hasNoTags = some true := by
    decide +kernel
  have hitem : (readItem lookAlikes).toOption.map (fun item => item.core .id) = some "0x1F" := by
    decide +kernel
  have hrefused : ((Data.ofText "id: [1]\n").toOption.bind entriesOf?).map (fun es =>
      decide (∃ e ∈ es, (ofData e.1).display = CoreField.id.name ∧ e.2.IsCollection)) =
      some true := by decide +kernel
  obtain ⟨es, hes, htexts⟩ := exists_entries (by decide +kernel) hentries
  obtain ⟨n, rfl⟩ := eq_of_lookAlikeTexts htexts
  obtain ⟨item, hread, hid⟩ := exists_ok hitem
  obtain ⟨document, hparsed, htags⟩ := exists_ok hdocument
  have huntagged : ∀ d, Yaml.Document.ofText lookAlikes = .ok d → d.CoreUntagged := by
    intro d hd
    obtain rfl := Except.ok.inj (hparsed.symm.trans hd)
    exact coreUntagged_of_hasNoTags htags
  have hagree := (readings_agree.1 lookAlikes item hread huntagged).2 _ hes
  have hcreated : ∀ v, (Data.string "created", v) ∉ [(Data.string "note", Data.string "5"),
      (.string "id", .number n), (.string "title", .null), (.string "status", .string "5"),
      (.string "kind", .bool true)] := by simp
  obtain ⟨others, hothers, hcollection⟩ := exists_entries (by decide +kernel) hrefused
  obtain ⟨e, he, hname, hcollection⟩ := of_decide_eq_true hcollection
  exact ⟨item, _, n, hread, hes, by simp, hid,
    ((hagree .id).2 (.number n) (by simp [CoreField.name])).1, by simp,
    ((hagree .title).2 .null (by simp [CoreField.name])).1, by simp,
    ((hagree .status).2 (.string "5") (by simp [CoreField.name])).1, by simp,
    ((hagree .kind).2 (.bool true) (by simp [CoreField.name])).1, hcreated,
    (hagree .created).1 hcreated, readings_agree.2 _ others .id e hothers he hname hcollection⟩

end FrontMatter
end WorkItems
