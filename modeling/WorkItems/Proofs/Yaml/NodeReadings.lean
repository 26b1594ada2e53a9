import Mathlib.Data.List.Forall2
import Mathlib.Data.List.Nodup
import WorkItems.Proofs.Yaml.ReadData
/-!
# What a reader gives in a document

How often aliases have been followed decides whether a reader gives something at all, but not what
it gives (`GivesIn`). So the same node is meant by an alias wherever it is followed, and what two
readers make of a node, its data and its text say, comes from the same scalar.
-/

namespace WorkItems.Yaml

/-! ## Nodes that are meant -/

/-- The node that a node stands for: the one of its alias, or itself. -/
def Document.meant? (d : Document) : Node → Option Node
  | .aliasOf number => d.target? number
  | n => some n

/-- The node stands for a scalar with this text. -/
def Document.HasText (d : Document) (n : Node) (text : String) : Prop :=
  ∃ p style, d.meant? n = some (.scalar p style text)

theorem Document.HasText.unique {d : Document} {n : Node} {s t : String} (hs : d.HasText n s)
    (ht : d.HasText n t) : s = t := by
  obtain ⟨p, style, hs⟩ := hs
  obtain ⟨q, other, ht⟩ := ht
  cases hs.symm.trans ht
  rfl

def Node.IsCollection : Node → Prop
  | .sequence .. | .mapping .. => True
  | .scalar .. | .aliasOf _ => False

/-- A sequence or a mapping, with a tag or without. -/
def Data.IsCollection : Data → Prop
  | .sequence _ | .mapping _ => True
  | .tagged _ content => content.IsCollection
  | .null | .bool _ | .number _ | .string _ => False

instance Data.decidableIsCollection : DecidablePred Data.IsCollection
  | .sequence _ | .mapping _ => isTrue trivial
  | .tagged _ content => Data.decidableIsCollection content
  | .null | .bool _ | .number _ | .string _ => isFalse id

/-! ## Readers -/

/-- What a reader gives in a document, however many aliases were followed before. -/
def GivesIn {α : Type} (document : Document) (r : Read α) (a : α) : Prop :=
  ∃ jumps jumps', r document jumps = .ok (a, jumps')

variable {α β : Type} {document : Document} {n : Node}

theorem Gives.of_givesIn {P : α → Prop} {r : Read α} {a : α} (h : Gives P r)
    (ha : GivesIn document r a) : P a := by
  obtain ⟨jumps, jumps', ha⟩ := ha
  exact h document jumps a jumps' ha

theorem givesIn_pure {a b : α} (h : GivesIn document (pure a) b) : a = b := by
  obtain ⟨jumps, jumps', h⟩ := h
  exact (Prod.mk.inj (Except.ok.inj h)).1

theorem not_givesIn_fail {e : Error} {a : α} : ¬GivesIn document (Read.fail e) a := by
  rintro ⟨jumps, jumps', h⟩
  cases h

theorem givesIn_bind {r : Read α} {f : α → Read β} {b : β} (h : GivesIn document (r >>= f) b) :
    ∃ a, GivesIn document r a ∧ GivesIn document (f a) b := by
  obtain ⟨jumps, jumps', h⟩ := h
  simp only [Bind.bind, ReaderT.bind, StateT.bind, Except.bind] at h
  cases hr : r document jumps with
  | error e =>
      rw [hr] at h
      cases h
  | ok result =>
      rw [hr] at h
      exact ⟨result.1, ⟨jumps, result.2, hr⟩, result.2, jumps', h⟩

theorem givesIn_map {r : Read α} {f : α → β} {b : β} (h : GivesIn document (f <$> r) b) :
    ∃ a, GivesIn document r a ∧ f a = b := by
  rw [map_eq_pure_bind] at h
  obtain ⟨a, ha, hb⟩ := givesIn_bind h
  exact ⟨a, ha, givesIn_pure hb⟩

theorem givesIn_mapM {f : α → Read β} :
    ∀ {as : List α} {bs : List β}, GivesIn document (as.mapM f) bs →
      List.Forall₂ (fun a b => GivesIn document (f a) b) as bs
  | [], bs, h => by
      rw [List.mapM_nil] at h
      obtain rfl := givesIn_pure h
      exact .nil
  | a :: as, bs, h => by
      rw [List.mapM_cons] at h
      obtain ⟨b, hb, h⟩ := givesIn_bind h
      obtain ⟨bs', hbs, h⟩ := givesIn_bind h
      obtain rfl := givesIn_pure h
      exact .cons hb (givesIn_mapM hbs)

theorem givesIn_of_run {r : Read α} {a : α} (h : r.run document = .ok a) :
    GivesIn document r a := by
  rw [Read.run] at h
  cases hr : r document 0 with
  | error e =>
      rw [hr] at h
      cases h
  | ok result =>
      rw [hr] at h
      cases h
      exact ⟨0, result.2, hr⟩

theorem givesIn_of_readText {text : String} {read : Node → Read α} {a : α}
    (h : readText text read = .ok a) : ∃ document, Document.ofText text = .ok document ∧
      GivesIn document (read (document.root.getD .absent)) a := by
  obtain ⟨document, hdocument, h⟩ := exists_of_bind_eq_ok h
  exact ⟨document, hdocument, givesIn_of_run h⟩

theorem meant?_of_follow {m : Node} (h : GivesIn document n.follow m) :
    document.meant? n = some m := by
  obtain ⟨jumps, jumps', h⟩ := h
  cases n with
  | aliasOf number =>
      rw [Node.follow] at h
      split at h
      · cases h
      · split at h
        · rename_i target htarget
          cases h
          exact htarget
        · cases h
  | scalar p style text =>
      cases h
      rfl
  | sequence p items =>
      cases h
      rfl
  | mapping p entries =>
      cases h
      rfl

/-! ## Texts of nodes -/

theorem hasText_of_text {text : String} (h : GivesIn document n.text text) :
    document.HasText n text := by
  obtain ⟨m, hfollow, h⟩ := givesIn_bind h
  have hm := meant?_of_follow hfollow
  cases m with
  | scalar p style t =>
      obtain rfl := givesIn_pure h
      exact ⟨p, style, hm⟩
  | sequence p items => exact absurd h not_givesIn_fail
  | mapping p entries => exact absurd h not_givesIn_fail
  | aliasOf number => exact absurd h not_givesIn_fail

/-- The text of a scalar, unless it is missing. -/
theorem givesIn_optional_scalar {p : Properties} {style : Style} {text : String} {o : Option String}
    (hm : document.meant? n = some (.scalar p style text))
    (h : GivesIn document (Node.optional Node.text n) o) :
    ∃ missing, GivesIn document (isMissing p style text) missing ∧
      o = if missing then none else some text := by
  obtain ⟨m, hfollow, h⟩ := givesIn_bind h
  obtain rfl := Option.some.inj (hm.symm.trans (meant?_of_follow hfollow))
  obtain ⟨missing, hmissing, h⟩ := givesIn_bind h
  refine ⟨missing, hmissing, ?_⟩
  cases missing with
  | true => exact (givesIn_pure h).symm
  | false =>
      obtain ⟨t, ht, rfl⟩ := givesIn_map h
      exact congrArg some ((hasText_of_text ht).unique ⟨p, style, rfl⟩)

theorem not_givesIn_optional {m : Node} {o : Option String} (hm : document.meant? n = some m)
    (hcollection : m.IsCollection) : ¬GivesIn document (Node.optional Node.text n) o := by
  intro h
  obtain ⟨m', hfollow, h⟩ := givesIn_bind h
  obtain rfl := Option.some.inj (hm.symm.trans (meant?_of_follow hfollow))
  cases m with
  | scalar p style text => exact hcollection
  | aliasOf number => exact hcollection
  | sequence p items =>
      obtain ⟨t, ht, -⟩ := givesIn_map h
      obtain ⟨q, style, hscalar⟩ := hasText_of_text ht
      cases hscalar
  | mapping p entries =>
      obtain ⟨t, ht, -⟩ := givesIn_map h
      obtain ⟨q, style, hscalar⟩ := hasText_of_text ht
      cases hscalar

/-! ## Data of nodes -/

theorem givesIn_withTag {p : Properties} {d data : Data} (h : GivesIn document (withTag p d) data) :
    data = d ∨ ∃ tag, data = .tagged tag d := by
  rw [withTag] at h
  split at h
  · split at h
    · exact absurd h not_givesIn_fail
    · exact .inr ⟨_, (givesIn_pure h).symm⟩
  · exact .inl (givesIn_pure h).symm

/-- The entries of a mapping are those that were read before, and one for each that is written. -/
theorem givesIn_readEntries {child : Node → Read Data} :
    ∀ {es : List (Node × Node)} {seen ds : List (Data × Data)},
      GivesIn document (readEntries child seen es) ds →
        ∃ new, ds = seen.reverse ++ new ∧
          List.Forall₂ (fun e d => GivesIn document (child e.1) d.1 ∧
            GivesIn document (child e.2) d.2) es new
  | [], seen, ds, h => by
      rw [readEntries] at h
      obtain rfl := givesIn_pure h
      exact ⟨[], (List.append_nil _).symm, .nil⟩
  | (k, v) :: es, seen, ds, h => by
      rw [readEntries] at h
      obtain ⟨key, hkey, h⟩ := givesIn_bind h
      split at h
      · exact absurd h not_givesIn_fail
      · obtain ⟨value, hvalue, h⟩ := givesIn_bind h
        obtain ⟨new, rfl, hnew⟩ := givesIn_readEntries h
        refine ⟨(key, value) :: new, ?_, .cons ⟨hkey, hvalue⟩ hnew⟩
        rw [List.reverse_cons, List.append_assoc, List.singleton_append]

/-- Data is that of a scalar, or a sequence or a mapping with what its tag adds. -/
inductive IsDataOf (document : Document) (data : Data) : (depth : Nat) → Node → Prop where
  | scalar {depth : Nat} {p : Properties} {style : Style} {text : String} :
      GivesIn document (scalarData p style text) data →
        IsDataOf document data depth (.scalar p style text)
  | sequence {depth : Nat} {p : Properties} {items : List Node} {ds : List Data} :
      data = .sequence ds ∨ (∃ tag, data = .tagged tag (.sequence ds)) →
        IsDataOf document data (depth + 1) (.sequence p items)
  | mapping {depth : Nat} {p : Properties} {es : List (Node × Node)} {ds : List (Data × Data)} :
      data = .mapping ds ∨ (∃ tag, data = .tagged tag (.mapping ds)) →
        List.Forall₂ (fun e d => GivesIn document (e.1.data depth) d.1 ∧
          GivesIn document (e.2.data depth) d.2) es ds →
        IsDataOf document data (depth + 1) (.mapping p es)

theorem givesIn_data {depth : Nat} {data : Data} (h : GivesIn document (n.data depth) data) :
    ∃ m, document.meant? n = some m ∧ IsDataOf document data depth m := by
  have hwith : ∃ child, GivesIn document (Node.dataWith child n) data ∧
      ∀ read, child = some read → ∃ below, depth = below + 1 ∧ read = Node.data below := by
    cases depth with
    | zero => exact ⟨none, h, fun _ hread => nomatch hread⟩
    | succ depth =>
        refine ⟨some (Node.data depth), h, fun read hread => ⟨depth, rfl, ?_⟩⟩
        exact (Option.some.inj hread).symm
  obtain ⟨child, h, hchild⟩ := hwith
  obtain ⟨m, hfollow, h⟩ := givesIn_bind h
  refine ⟨m, meant?_of_follow hfollow, ?_⟩
  cases m with
  | scalar p style text => exact .scalar h
  | sequence p items =>
      cases child with
      | none => exact absurd h not_givesIn_fail
      | some read =>
          obtain ⟨below, rfl, rfl⟩ := hchild read rfl
          obtain ⟨ds, -, h⟩ := givesIn_bind h
          exact .sequence (givesIn_withTag h)
  | mapping p entries =>
      cases child with
      | none => exact absurd h not_givesIn_fail
      | some read =>
          obtain ⟨below, rfl, rfl⟩ := hchild read rfl
          obtain ⟨ds, hds, h⟩ := givesIn_bind h
          obtain ⟨new, rfl, hnew⟩ := givesIn_readEntries hds
          exact .mapping (givesIn_withTag h) hnew
  | aliasOf number => exact absurd h not_givesIn_fail

theorem not_isCollection_of_isRead {depth : Nat} {data : Data} (h : IsRead depth data)
    (hdepth : depth = 0) : ¬data.IsCollection := by
  induction h with
  | tagged _ _ ih => exact ih hdepth
  | sequence _ _ => cases hdepth
  | mapping _ _ _ _ _ => cases hdepth
  | _ => exact id

/-- Data is a collection exactly if its node is one. -/
theorem IsDataOf.isCollection_iff {data : Data} {depth : Nat} (h : IsDataOf document data depth n) :
    data.IsCollection ↔ n.IsCollection := by
  cases h with
  | @scalar depth p style text h =>
      have hread : IsRead 0 data := (Gives.of_givesIn (gives_scalarData p style text) h).isRead
      exact iff_of_false (not_isCollection_of_isRead hread rfl) id
  | sequence h => rcases h with rfl | ⟨tag, rfl⟩ <;> exact iff_of_true trivial trivial
  | mapping h _ => rcases h with rfl | ⟨tag, rfl⟩ <;> exact iff_of_true trivial trivial

/-- A node with a text is read as the data of a scalar with this text. -/
theorem givesIn_scalarData {text : String} {depth : Nat} {data : Data}
    (htext : document.HasText n text) (hdata : GivesIn document (n.data depth) data) :
    ∃ p style, document.meant? n = some (.scalar p style text) ∧
      GivesIn document (scalarData p style text) data := by
  obtain ⟨p, style, hscalar⟩ := htext
  obtain ⟨m, hm, hdata⟩ := givesIn_data hdata
  obtain rfl := Option.some.inj (hscalar.symm.trans hm)
  cases hdata with
  | scalar hdata => exact ⟨p, style, hscalar, hdata⟩

/-- A text that is a mapping has a node for its root, whose entries give the data. -/
theorem meant?_root {text : String} {ds : List (Data × Data)}
    (hdocument : Document.ofText text = .ok document)
    (hdata : Data.ofText text = .ok (.mapping ds)) :
    ∃ p es, document.meant? (document.root.getD .absent) = some (.mapping p es) ∧
      List.Forall₂ (fun e d => GivesIn document (e.1.data 127) d.1 ∧
        GivesIn document (e.2.data 127) d.2) es ds := by
  cases hroot : document.root with
  | none =>
      simp only [Data.ofText, hdocument, bind, Except.bind, hroot] at hdata
      cases hdata
  | some root =>
      rw [dataOfText_of_root hdocument hroot] at hdata
      obtain ⟨m, hm, hdata⟩ := givesIn_data (givesIn_of_run hdata)
      have hcollection : m.IsCollection := hdata.isCollection_iff.1 trivial
      cases hdata with
      | scalar _ => exact hcollection.elim
      | sequence h => rcases h with h | ⟨tag, h⟩ <;> cases h
      | mapping h hentries =>
          rcases h with h | ⟨tag, h⟩
          · cases h
            exact ⟨_, _, hm, hentries⟩
          · cases h

/-! ## Records -/

variable {known : List String}

/-- An entry is left out if its name is not known, and otherwise taken if the name is a new one. -/
theorem givesIn_collectFields_cons {k v : Node} {es : List (Node × Node)} {acc r : Record}
    (h : GivesIn document (collectFields known acc ((k, v) :: es)) r) :
    ∃ name, document.HasText k name ∧
      ((name ∉ known ∧ GivesIn document (collectFields known acc es) r) ∨
        (name ∈ known ∧ name ∉ acc.map (·.1) ∧
          GivesIn document (collectFields known ((name, v) :: acc) es) r)) := by
  rw [collectFields] at h
  obtain ⟨name, hname, h⟩ := givesIn_bind h
  refine ⟨name, hasText_of_text hname, ?_⟩
  split at h
  · rename_i hunknown
    exact .inl ⟨by simpa using hunknown, h⟩
  · rename_i hknown
    split at h
    · exact absurd h not_givesIn_fail
    · rename_i hnew
      refine .inr ⟨by simpa using hknown, fun hmem => hnew ?_, h⟩
      obtain ⟨e, he, heq⟩ := List.mem_map.1 hmem
      exact List.any_eq_true.2 ⟨e, he, by simp [heq]⟩

/-- A record takes no known name twice, under whatever other properties it comes. -/
theorem givesIn_collectFields : ∀ {es : List (Node × Node)} {acc r : Record},
    GivesIn document (collectFields known acc es) r → (acc.map (·.1)).Nodup →
      ∃ texts, List.Forall₂ (fun e t => document.HasText e.1 t) es texts ∧
        ∀ name ∈ known, texts.count name + (acc.map (·.1)).count name ≤ 1
  | [], acc, r, _, hacc => by
      refine ⟨[], .nil, fun name _ => ?_⟩
      rw [List.count_nil, Nat.zero_add]
      exact List.nodup_iff_count.1 hacc name
  | (k, v) :: es, acc, r, h, hacc => by
      obtain ⟨text, htext, hstep⟩ := givesIn_collectFields_cons h
      rcases hstep with ⟨hunknown, h⟩ | ⟨-, hnew, h⟩
      · obtain ⟨texts, htexts, hcount⟩ := givesIn_collectFields h hacc
        refine ⟨text :: texts, .cons htext htexts, fun name hname => ?_⟩
        have hne : text ≠ name := fun heq => hunknown (heq ▸ hname)
        rw [List.count_cons_of_ne hne]
        exact hcount name hname
      · obtain ⟨texts, htexts, hcount⟩ := givesIn_collectFields h (List.nodup_cons.2 ⟨hnew, hacc⟩)
        refine ⟨text :: texts, .cons htext htexts, fun name hname => ?_⟩
        have hrest := hcount name hname
        rw [List.map_cons] at hrest
        simp only [List.count_cons] at hrest ⊢
        omega

/-- A record has the entries with a known name. -/
theorem mem_collectFields : ∀ {es : List (Node × Node)} {acc r : Record},
    GivesIn document (collectFields known acc es) r → ∀ name ∈ known, ∀ v, (name, v) ∈ r ↔
      (name, v) ∈ acc ∨ ∃ k, (k, v) ∈ es ∧ document.HasText k name
  | [], acc, r, h, name, _, v => by
      obtain rfl := givesIn_pure h
      simp
  | (k, w) :: es, acc, r, h, name, hname, v => by
      obtain ⟨text, htext, hstep⟩ := givesIn_collectFields_cons h
      rcases hstep with ⟨hunknown, h⟩ | ⟨-, -, h⟩
      · rw [mem_collectFields h name hname v]
        refine or_congr_right (exists_congr fun key => and_congr_left fun hkey => ?_)
        rw [List.mem_cons, or_iff_right]
        rintro heq
        cases heq
        exact hunknown (htext.unique hkey ▸ hname)
      · rw [mem_collectFields h name hname v, List.mem_cons, Prod.mk.injEq]
        constructor
        · rintro ((⟨rfl, rfl⟩ | hmem) | ⟨key, hmem, hkey⟩)
          · exact .inr ⟨k, List.mem_cons_self .., htext⟩
          · exact .inl hmem
          · exact .inr ⟨key, List.mem_cons_of_mem _ hmem, hkey⟩
        · rintro (hmem | ⟨key, hmem, hkey⟩)
          · exact .inl (.inr hmem)
          · rcases List.mem_cons.1 hmem with heq | hmem
            · cases heq
              exact .inl (.inl ⟨hkey.unique htext, rfl⟩)
            · exact .inr ⟨key, hmem, hkey⟩

theorem nodup_collectFields : ∀ {es : List (Node × Node)} {acc r : Record},
    GivesIn document (collectFields known acc es) r → (acc.map (·.1)).Nodup → (r.map (·.1)).Nodup
  | [], acc, r, h, hacc => by
      obtain rfl := givesIn_pure h
      exact hacc
  | (k, v) :: es, acc, r, h, hacc => by
      obtain ⟨text, -, ⟨-, h⟩ | ⟨-, hnew, h⟩⟩ := givesIn_collectFields_cons h
      · exact nodup_collectFields h hacc
      · exact nodup_collectFields h (List.nodup_cons.2 ⟨hnew, hacc⟩)

theorem Record.find?_eq_some_iff {r : Record} (hr : (r.map (·.1)).Nodup) {name : String}
    {v : Node} :
    r.find? name = some v ↔ (name, v) ∈ r := by
  rw [Record.find?, Option.map_eq_some_iff]
  constructor
  · rintro ⟨⟨key, w⟩, hfind, rfl⟩
    obtain rfl : key = name := by simpa using List.find?_some hfind
    exact List.mem_of_find?_eq_some hfind
  · intro hmem
    obtain ⟨e, hfind⟩ : ∃ e, List.find? (fun e : String × Node => e.1 == name) r = some e := by
      rw [← Option.isSome_iff_exists, List.find?_isSome]
      exact ⟨(name, v), hmem, beq_self_eq_true name⟩
    have hkey : e.1 = name := by simpa using List.find?_some hfind
    have heq := List.inj_on_of_nodup_map hr (List.mem_of_find?_eq_some hfind) hmem hkey
    exact ⟨e, hfind, congrArg Prod.snd heq⟩

theorem givesIn_record {root : Node} {p : Properties} {es : List (Node × Node)} {r : Record}
    (hroot : document.meant? root = some (.mapping p es))
    (h : GivesIn document (root.record known) r) :
    GivesIn document (collectFields known [] es) r := by
  obtain ⟨found, hfound, hcollect⟩ := givesIn_bind h
  obtain ⟨target, htarget, hfound⟩ := givesIn_bind hfound
  obtain rfl := Option.some.inj (hroot.symm.trans (meant?_of_follow htarget))
  obtain rfl := givesIn_pure hfound
  exact hcollect

end WorkItems.Yaml
