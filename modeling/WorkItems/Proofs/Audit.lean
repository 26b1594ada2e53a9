import Mathlib.Data.List.Forall2
import WorkItems.Audit
import WorkItems.Proofs.Dict
import WorkItems.Proofs.Text.Bytes
/-!
# What an audit reports

An audit collects the files of each id in a dictionary, one file after the other. Behind all of them
the dictionary holds under each id the paths of the files that have it, in their order
(`find?_owners`). So the entries for shared ids come in the order of the ids, one for each id that
several files have.

Whether an audit finds anything at all does not depend on the order of the files. What it finds
does: the entry for a shared id is about the first file that has the id.
-/

namespace WorkItems

/-! ## Ids and folders -/

/-- A file is a document with this id. Blanks around it do not count, and a blank one is none. -/
def ItemFile.HasId (f : ItemFile) (id : String) : Prop :=
  id ≠ "" ∧ ∃ d, f.document = .ok d ∧ Text.strip d.item.id = id

theorem ItemFile.hasId_iff {f : ItemFile} {id : String} : f.HasId id ↔ f.id? = some id := by
  rw [HasId, id?]
  cases f.document with
  | error e => simp
  | ok d =>
      by_cases hblank : Text.strip d.item.id = ""
      · simp only [hblank, if_true]
        constructor
        · rintro ⟨hne, _, ⟨⟩, rfl⟩
          exact absurd hblank hne
        · rintro ⟨⟩
      · simp only [hblank, if_false]
        constructor
        · rintro ⟨-, _, ⟨⟩, rfl⟩
          rfl
        · rintro ⟨⟩
          exact ⟨hblank, d, rfl, rfl⟩

instance (f : ItemFile) (id : String) : Decidable (f.HasId id) :=
  decidable_of_iff _ ItemFile.hasId_iff.symm

theorem ItemFile.HasId.unique {f : ItemFile} {id id' : String} (h : f.HasId id) (h' : f.HasId id') :
    id = id' :=
  Option.some.inj ((hasId_iff.1 h).symm.trans (hasId_iff.1 h'))

/-- A path lies directly in a directory: it has one component more. -/
def Path.LiesIn (p directory : Path) : Prop :=
  ∃ c, c ≠ .root ∧ p.components = directory.components ++ [c]

theorem Path.liesIn_iff {p directory : Path} :
    p.LiesIn directory ↔ p.parentComponents? = some directory.components := by
  rw [LiesIn, parentComponents?]
  rcases List.eq_nil_or_concat p.components with hnil | ⟨before, last, hlast⟩
  · rw [hnil]
    simp
  · rw [hlast, List.concat_eq_append, List.getLast?_concat]
    cases last <;> simp

instance (p directory : Path) : Decidable (p.LiesIn directory) :=
  decidable_of_iff _ Path.liesIn_iff.symm

/-- The shared ids in a report, each with the files it names. -/
def Report.shared (r : Report) : List (String × List String) :=
  r.entries.filterMap fun e =>
    match e.note with
    | .sharedId id names => some (id, names)
    | _ => none

theorem Report.shared_append (es fs : List ReportEntry) :
    (Report.mk (es ++ fs)).shared = (Report.mk es).shared ++ (Report.mk fs).shared :=
  List.filterMap_append ..

theorem Report.shared_eq_nil_iff {r : Report} :
    r.shared = [] ↔ ∀ e ∈ r.entries, ∀ id names, e.note ≠ .sharedId id names := by
  rw [shared, List.filterMap_eq_nil_iff]
  refine forall₂_congr fun e _ => ?_
  cases e.note <;> simp

namespace Schema

/-- The files with an id, in their order. -/
def sharers (files : List ItemFile) (id : String) : List ItemFile := files.filter (·.HasId id)

/-- The files that lie directly in a directory, in their order. -/
def inside (directory : Path) (files : List ItemFile) : List ItemFile :=
  files.filter (·.path.LiesIn directory)

/-- Files as messages name them. -/
def shown (root : Path) (files : List ItemFile) : List String :=
  files.map fun f => Path.display root f.path

theorem map_display (root : Path) (files : List ItemFile) :
    (files.map (·.path)).map (Path.display root) = shown root files := by
  rw [List.map_map]
  rfl

theorem mem_sharers {files : List ItemFile} {id : String} {f : ItemFile} :
    f ∈ sharers files id ↔ f ∈ files ∧ f.HasId id := by
  rw [sharers, List.mem_filter, decide_eq_true_iff]

theorem sharers_cons_of_hasId {f : ItemFile} {id : String} (h : f.HasId id) (fs : List ItemFile) :
    sharers (f :: fs) id = f :: sharers fs id :=
  List.filter_cons_of_pos (decide_eq_true h)

theorem sharers_cons_of_not_hasId {f : ItemFile} {id : String} (h : ¬f.HasId id)
    (fs : List ItemFile) : sharers (f :: fs) id = sharers fs id :=
  List.filter_cons_of_neg (by simpa using h)

/-- No two files share an id if every id has one file at most. -/
theorem pairwise_not_hasId_iff {files : List ItemFile} :
    (files.Pairwise fun f g => ∀ id, f.HasId id → ¬g.HasId id) ↔
      ∀ id, (sharers files id).length ≤ 1 := by
  induction files with
  | nil => simp [sharers]
  | cons f fs ih =>
      rw [List.pairwise_cons, ih]
      constructor
      · rintro ⟨hf, hfs⟩ id
        by_cases hid : f.HasId id
        · have hnone : sharers fs id = [] :=
            List.eq_nil_iff_forall_not_mem.2 fun g hg =>
              hf g (mem_sharers.1 hg).1 id hid (mem_sharers.1 hg).2
          rw [sharers_cons_of_hasId hid, hnone]
          exact Nat.le_refl 1
        · rw [sharers_cons_of_not_hasId hid]
          exact hfs id
      · intro h
        refine ⟨fun g hg id hf hgid => ?_, fun id => ?_⟩
        · have hone := h id
          rw [sharers_cons_of_hasId hf, List.length_cons] at hone
          have hpos : 0 < (sharers fs id).length :=
            List.length_pos_of_mem (mem_sharers.2 ⟨hg, hgid⟩)
          omega
        · have hsub : (sharers fs id).Sublist (sharers (f :: fs) id) :=
            (List.sublist_cons_self f fs).filter _
          exact Nat.le_trans hsub.length_le (h id)

/-! ## The files of each id -/

/--
Behind the files that an audit went through, each id has their paths behind those it had before.
-/
theorem find?_foldl_owners (id : String) (files : List ItemFile) :
    ∀ d : Dict (List Path),
      ((files.foldl (fun d f =>
        match f.id? with
        | some id => d.insert id ((d.find? id).getD [] ++ [f.path])
        | none => d) d).find? id).getD [] =
      (d.find? id).getD [] ++ (sharers files id).map (·.path) := by
  induction files with
  | nil => simp [sharers]
  | cons f fs ih =>
      intro d
      rw [List.foldl_cons, ih]
      cases hid : f.id? with
      | none =>
          have hnot : ¬f.HasId id := fun h => nomatch hid.symm.trans (ItemFile.hasId_iff.1 h)
          rw [sharers_cons_of_not_hasId hnot]
      | some own =>
          dsimp only
          rw [show (d.insert own _).find? id = _ from Entries.find?_insert own id _ d.entries]
          by_cases heq : own = id
          · subst heq
            rw [if_pos rfl, sharers_cons_of_hasId (ItemFile.hasId_iff.2 hid)]
            simp
          · have hnot : ¬f.HasId id := fun h =>
              heq (ItemFile.HasId.unique (ItemFile.hasId_iff.2 hid) h)
            rw [if_neg heq, sharers_cons_of_not_hasId hnot]
            rfl

theorem find?_owners (files : List ItemFile) (id : String) :
    ((owners files).find? id).getD [] = (sharers files id).map (·.path) :=
  find?_foldl_owners id files .empty

theorem eq_of_mem_owners {files : List ItemFile} {id : String} {paths : List Path}
    (h : (id, paths) ∈ (owners files).entries) : paths = (sharers files id).map (·.path) := by
  have hfind : (owners files).find? id = some paths :=
    (Entries.find?_eq_some_iff (owners files).sorted).2 h
  rw [← find?_owners, hfind]
  rfl

theorem mem_owners_of_mem_sharers {files : List ItemFile} {id : String} {f : ItemFile}
    (h : f ∈ sharers files id) :
    (id, (sharers files id).map (·.path)) ∈ (owners files).entries := by
  have hfind := find?_owners files id
  cases howners : (owners files).find? id with
  | none =>
      rw [howners] at hfind
      exact absurd (List.map_eq_nil_iff.1 hfind.symm) (List.ne_nil_of_mem h)
  | some paths =>
      rw [howners] at hfind
      exact hfind ▸ Entries.mem_of_find? howners

/-! ## Shared ids -/

/-- The entry for an id that several files share: it is about the first one and names all. -/
def IsSharedEntry (root : Path) (files : List ItemFile) (id : String) (e : ReportEntry) : Prop :=
  ∃ first second rest, sharers files id = first :: second :: rest ∧
    e = ⟨first.path, .sharedId id (shown root (sharers files id))⟩

/-- The ids that several files share, in their order. -/
def sharedIds (files : List ItemFile) : List String :=
  ((owners files).entries.filter fun e => 2 ≤ e.2.length).map (·.1)

theorem mem_sharedIds {files : List ItemFile} {id : String} :
    id ∈ sharedIds files ↔ 2 ≤ (sharers files id).length := by
  rw [sharedIds, List.mem_map]
  constructor
  · rintro ⟨⟨_, paths⟩, he, rfl⟩
    obtain ⟨hmem, hlen⟩ := List.mem_filter.1 he
    rw [eq_of_mem_owners hmem] at hlen
    simpa using hlen
  · intro hlen
    obtain ⟨f, hf⟩ := List.exists_mem_of_length_pos (Nat.lt_of_lt_of_le Nat.zero_lt_two hlen)
    exact ⟨_, List.mem_filter.2 ⟨mem_owners_of_mem_sharers hf, by simpa using hlen⟩, rfl⟩

/-- The shared ids ascend, compared by their bytes. -/
theorem pairwise_sharedIds (files : List ItemFile) :
    (sharedIds files).Pairwise fun id id' => Text.bytes id < Text.bytes id' := by
  refine List.pairwise_map.2 (List.Pairwise.imp ?_ ((owners files).sorted.filter _))
  intro e e' hlt
  exact Text.lt_iff_bytes_lt.1 hlt

/-- There is one entry for each id that several files share, in the order of the ids. -/
theorem forall₂_sharedEntries (root : Path) (files : List ItemFile) :
    List.Forall₂ (IsSharedEntry root files) (sharedIds files) (sharedEntries root files) := by
  suffices key : ∀ es : Entries (List Path),
      (∀ e ∈ es, e.2 = (sharers files e.1).map (·.path)) →
      List.Forall₂ (IsSharedEntry root files) ((es.filter fun e => 2 ≤ e.2.length).map (·.1))
        (es.filterMap fun e => sharedEntry? root e.1 e.2) from
    key _ fun e he => eq_of_mem_owners he
  intro es
  induction es with
  | nil => exact fun _ => .nil
  | cons e es ih =>
      intro h
      obtain ⟨id, paths⟩ := e
      have hpaths : paths = (sharers files id).map (·.path) := h _ (List.mem_cons_self ..)
      have hrest := ih fun e he => h e (List.mem_cons_of_mem _ he)
      rcases hsharers : sharers files id with _ | ⟨first, _ | ⟨second, rest⟩⟩
      · rw [hsharers] at hpaths
        subst hpaths
        exact hrest
      · rw [hsharers] at hpaths
        subst hpaths
        exact hrest
      · rw [hsharers] at hpaths
        subst hpaths
        refine .cons ⟨first, second, rest, hsharers, ?_⟩ hrest
        rw [hsharers, ← map_display]
        rfl

theorem sharedEntries_eq_nil_iff {root : Path} {files : List ItemFile} :
    sharedEntries root files = [] ↔ files.Pairwise fun f g => ∀ id, f.HasId id → ¬g.HasId id := by
  rw [pairwise_not_hasId_iff, ← List.length_eq_zero_iff,
    ← (forall₂_sharedEntries root files).length_eq, List.length_eq_zero_iff,
    List.eq_nil_iff_forall_not_mem]
  refine forall_congr' fun id => ?_
  rw [mem_sharedIds, Nat.not_le, Nat.lt_succ_iff]

/-! ## What is wrong with each file, and the folder of the item that is being worked on -/

/-- What an audit says of one file: why it could not be read, or the complaints about its item. -/
def ownEntries (s : Schema) (today : Date) (f : ItemFile) : List ReportEntry :=
  match f.document with
  | .error cause => [⟨f.path, .unread cause⟩]
  | .ok d => (s.complaints today d.item).map fun c => ⟨f.path, .complaint c⟩

theorem about_fileNotes (s : Schema) (today : Date) (f : ItemFile) :
    Report.about f.path (s.fileNotes today f) = s.ownEntries today f := by
  rw [fileNotes, ownEntries]
  cases f.document with
  | error cause => rfl
  | ok d => rw [Report.about, List.map_map]; rfl

theorem ownEntries_eq_nil_iff {s : Schema} {today : Date} {f : ItemFile} :
    s.ownEntries today f = [] ↔ ∃ d, f.document = .ok d ∧ s.complaints today d.item = [] := by
  rw [ownEntries]
  cases f.document <;> simp

theorem inFolder_eq (directory : Path) (files : List ItemFile) :
    inFolder directory files = (inside directory files).map (·.path) := by
  rw [inFolder, inside, List.filter_map]
  congr 1
  refine List.filter_congr fun f _ => ?_
  rw [Function.comp_apply, beq_eq_decide]
  exact decide_eq_decide.2 Path.liesIn_iff.symm

/-- Whether several files lie in the folder of the one item that is being worked on. -/
def IsCrowded (s : Schema) (root : Path) (files : List ItemFile) (folder : String) : Prop :=
  s.activeFolder? = some folder ∧ 2 ≤ (inside (root.join folder) files).length

/-- The entry about that folder, which names all files in it. -/
def crowdedEntry (root : Path) (files : List ItemFile) (folder : String) : ReportEntry :=
  ⟨root.join folder, .crowded folder (shown root (inside (root.join folder) files))⟩

theorem workflowEntries_of_isCrowded {s : Schema} {root : Path} {files : List ItemFile}
    {folder : String} (h : s.IsCrowded root files folder) :
    s.workflowEntries root files = [crowdedEntry root files folder] := by
  have hlen : 1 < (inFolder (root.join folder) files).length := by
    rw [inFolder_eq, List.length_map]
    exact h.2
  rw [workflowEntries, h.1]
  dsimp only
  rw [if_pos hlen, inFolder_eq, map_display]
  rfl

theorem workflowEntries_of_not_isCrowded {s : Schema} {root : Path} {files : List ItemFile}
    (h : ∀ folder, ¬s.IsCrowded root files folder) : s.workflowEntries root files = [] := by
  rw [workflowEntries]
  cases hfolder : s.activeFolder? with
  | none => rfl
  | some folder =>
      have hlen : ¬1 < (inFolder (root.join folder) files).length := by
        rw [inFolder_eq, List.length_map]
        exact fun hlen => h folder ⟨hfolder, hlen⟩
      exact if_neg hlen

theorem workflowEntries_eq_nil_iff {s : Schema} {root : Path} {files : List ItemFile} :
    s.workflowEntries root files = [] ↔ ∀ folder, ¬s.IsCrowded root files folder := by
  constructor
  · intro hnil folder hcrowded
    rw [workflowEntries_of_isCrowded hcrowded] at hnil
    cases hnil
  · exact workflowEntries_of_not_isCrowded

/-! ## The whole audit -/

/--
The three parts of an audit of files: what is wrong with each of them, the ids that several share,
and the folder of the one item that is being worked on.
-/
structure AuditParts (s : Schema) (today : Date) (root : Path) (files : List ItemFile)
    (own shared workflow : List ReportEntry) : Prop where
  own : own = files.flatMap (s.ownEntries today)
  /--
  There is one entry for each id that at least two files have, in the order of the ids' bytes.
  -/
  shared : ∃ ids : List String,
    (ids.Pairwise fun id id' => Text.bytes id < Text.bytes id') ∧
      (∀ id, id ∈ ids ↔ 2 ≤ (sharers files id).length) ∧
      List.Forall₂ (IsSharedEntry root files) ids shared
  /-- There is one entry at most, and there is one exactly if the folder is crowded. -/
  workflow : (∃ folder, s.IsCrowded root files folder ∧
    workflow = [crowdedEntry root files folder]) ∨
    (∀ folder, ¬s.IsCrowded root files folder) ∧ workflow = []

/-- Nothing is wrong with files. -/
structure IsClean (s : Schema) (today : Date) (root : Path) (files : List ItemFile) : Prop where
  fine : ∀ f ∈ files, ∃ d, f.document = .ok d ∧ s.complaints today d.item = []
  ids : files.Pairwise fun f g => ∀ id, f.HasId id → ¬g.HasId id
  active : ∀ folder, s.activeFolder? = some folder → (inside (root.join folder) files).length ≤ 1

section Audit

variable {s : Schema} {today : Date} {root : Path} {files : List ItemFile}

theorem auditParts (s : Schema) (today : Date) (root : Path) (files : List ItemFile) :
    AuditParts s today root files (files.flatMap (s.ownEntries today)) (sharedEntries root files)
      (s.workflowEntries root files) where
  own := rfl
  shared := ⟨sharedIds files, pairwise_sharedIds files, fun _ => mem_sharedIds,
    forall₂_sharedEntries root files⟩
  workflow := by
    by_cases h : ∃ folder, s.IsCrowded root files folder
    · obtain ⟨folder, h⟩ := h
      exact .inl ⟨folder, h, workflowEntries_of_isCrowded h⟩
    · rw [not_exists] at h
      exact .inr ⟨h, workflowEntries_of_not_isCrowded h⟩

theorem entries_audit (s : Schema) (today : Date) (root : Path) (files : List ItemFile) :
    (s.audit today root files).entries =
      files.flatMap (s.ownEntries today) ++ sharedEntries root files ++
        s.workflowEntries root files := by
  rw [audit, List.flatMap_congr fun f _ => about_fileNotes s today f]

/-- The shared ids in an audit are those that several files have, and it names these files. -/
theorem shared_audit (s : Schema) (today : Date) (root : Path) (files : List ItemFile) :
    (s.audit today root files).shared =
      (sharedIds files).map fun id => (id, shown root (sharers files id)) := by
  have hown : (Report.mk (files.flatMap (s.ownEntries today))).shared = [] := by
    refine Report.shared_eq_nil_iff.2 fun e he id names hnote => ?_
    obtain ⟨f, -, he⟩ := List.mem_flatMap.1 he
    rw [ownEntries] at he
    split at he
    · obtain rfl := List.mem_singleton.1 he
      cases hnote
    · obtain ⟨c, -, rfl⟩ := List.mem_map.1 he
      cases hnote
  have hworkflow : (Report.mk (s.workflowEntries root files)).shared = [] := by
    rcases (auditParts s today root files).workflow with ⟨folder, -, h⟩ | ⟨-, h⟩
    · rw [h]
      rfl
    · rw [h]
      rfl
  have hshared : ∀ ids es, List.Forall₂ (IsSharedEntry root files) ids es →
      (Report.mk es).shared = ids.map fun id => (id, shown root (sharers files id)) := by
    intro ids es h
    induction h with
    | nil => rfl
    | cons he _ ih =>
        obtain ⟨first, second, rest, -, rfl⟩ := he
        rw [List.map_cons, ← ih]
        rfl
  have hentries := entries_audit s today root files
  rw [show s.audit today root files = ⟨_⟩ from congrArg Report.mk hentries, Report.shared_append,
    Report.shared_append, hown, hworkflow, List.nil_append, List.append_nil]
  exact hshared _ _ (forall₂_sharedEntries root files)

/-- An audit has nothing to say exactly if nothing is wrong. -/
theorem hasErrors_audit_eq_false_iff :
    (s.audit today root files).hasErrors = false ↔ IsClean s today root files := by
  have hown : files.flatMap (s.ownEntries today) = [] ↔
      ∀ f ∈ files, ∃ d, f.document = .ok d ∧ s.complaints today d.item = [] := by
    rw [List.flatMap_eq_nil_iff]
    exact forall₂_congr fun f _ => ownEntries_eq_nil_iff
  rw [Report.hasErrors, Report.isEmpty, Bool.not_eq_false', List.isEmpty_iff, entries_audit,
    List.append_eq_nil_iff, List.append_eq_nil_iff, hown, sharedEntries_eq_nil_iff,
    workflowEntries_eq_nil_iff]
  constructor
  · rintro ⟨⟨hfine, hids⟩, hactive⟩
    refine ⟨hfine, hids, fun folder hfolder => ?_⟩
    exact Nat.lt_succ_iff.1 (Nat.not_le.1 fun hlen => hactive folder ⟨hfolder, hlen⟩)
  · intro h
    refine ⟨⟨h.fine, h.ids⟩, ?_⟩
    rintro folder ⟨hfolder, hlen⟩
    exact absurd (h.active folder hfolder) (Nat.not_le.2 hlen)

/-- Whether something is wrong with files does not depend on their order. -/
theorem IsClean.perm {files' : List ItemFile} (h : IsClean s today root files)
    (hperm : files.Perm files') : IsClean s today root files' where
  fine f hf := h.fine f (hperm.mem_iff.2 hf)
  ids := (hperm.pairwise_iff fun hfg id hg hf => hfg id hf hg).1 h.ids
  active folder hfolder := by
    have hlen : (inside (root.join folder) files').length =
        (inside (root.join folder) files).length :=
      (hperm.filter _).length_eq.symm
    rw [hlen]
    exact h.active folder hfolder

/--
An audit reports what is wrong, and nothing else: it consists of the three parts in their order, it
is empty exactly if nothing is wrong, and whether it is empty does not depend on the order of the
files.
-/
theorem audit_spec (s : Schema) (today : Date) (root : Path) (files : List ItemFile) :
    (∃ own shared workflow,
      (s.audit today root files).entries = own ++ shared ++ workflow ∧
        AuditParts s today root files own shared workflow) ∧
      ((s.audit today root files).hasErrors = false ↔ IsClean s today root files) ∧
      ∀ files' : List ItemFile, files.Perm files' →
        (s.audit today root files').hasErrors = (s.audit today root files).hasErrors := by
  refine ⟨⟨_, _, _, entries_audit s today root files, auditParts s today root files⟩,
    hasErrors_audit_eq_false_iff, ?_⟩
  intro files' hperm
  have hiff : IsClean s today root files' ↔ IsClean s today root files :=
    ⟨fun h => h.perm hperm.symm, fun h => h.perm hperm⟩
  rw [Bool.eq_iff_iff, ← not_iff_not, Bool.not_eq_true, Bool.not_eq_true,
    hasErrors_audit_eq_false_iff, hasErrors_audit_eq_false_iff, hiff]

end Audit

/-- Two items with one id, which is written differently. -/
def sharedPair : List ItemFile :=
  [⟨⟨"a.md"⟩, .ok ⟨⟨"7", "T", "todo", "task", "2024-01-02", .empty⟩, ""⟩⟩,
    ⟨⟨"b.md"⟩, .ok ⟨⟨" 7 ", "T", "todo", "task", "2024-01-02", .empty⟩, ""⟩⟩]

theorem audit_spec_sharedPair :
    sharedPair.Perm sharedPair.reverse ∧
      ∀ today, (audit default today ⟨""⟩ sharedPair).hasErrors = true ∧
        (audit default today ⟨""⟩ sharedPair.reverse).hasErrors = true := by
  have hperm : sharedPair.Perm sharedPair.reverse := (List.reverse_perm sharedPair).symm
  refine ⟨hperm, fun today => ?_⟩
  obtain ⟨-, hclean, hsame⟩ := audit_spec default today ⟨""⟩ sharedPair
  have herrors : (audit default today ⟨""⟩ sharedPair).hasErrors = true := by
    rw [← Bool.not_eq_false, hclean]
    intro h
    have hids := (List.pairwise_cons.1 h.ids).1 _ (List.mem_singleton.2 rfl) "7"
    exact hids ⟨by decide, _, rfl, by decide +kernel⟩ ⟨by decide, _, rfl, by decide +kernel⟩
  exact ⟨herrors, (hsame _ hperm).trans herrors⟩

end Schema
end WorkItems
