import Mathlib.Algebra.GroupWithZero.Nat
import WorkItems.Proofs.Audit
import WorkItems.Proofs.Run.DryRun
/-!
# An audit and a renumbering find the same shared ids

An audit collects the files of each id and reports the ids with several of them. A run that
renumbers goes through the files once, and decides about each by the ids of the files in front of
it, while it hands out new ones. Still the files it has something to say about, apart from those
that cannot be read, are the ones in the audit's groups that are not the first of their group.
Behind the run an audit finds no shared ids any more, unless some file found no free id.

The first comes down to whether a file repeats the id of an earlier one (`ItemFile.Repeats`). For
the run this is what `Treated` says of each step, and the run lemma is an induction over the files
that are left. For the audit it is what the positions behind the first one of a group have in common
(`mem_laterPositions`).

The second is what `Numbering.run_spec` says of the plan of a run. A run decides about one file
after the other, while it writes, and keeps to its plan only as long as it can write
(`carriesOut_of_written`).
-/

namespace WorkItems

/-- A note that only says that a file could not be read. -/
def Note.isUnread : Note → Bool
  | .unread _ => true
  | _ => false

namespace Report

/-- The entries that say more than that a file could not be read. -/
def findings (r : Report) : List ReportEntry := r.entries.filter fun e => !e.note.isUnread

theorem findings_eq_nil_iff {r : Report} :
    r.findings = [] ↔ ∀ e ∈ r.entries, e.note.isUnread = true := by
  rw [findings, List.filter_eq_nil_iff]
  refine forall₂_congr fun e _ => ?_
  rw [Bool.not_eq_true', Bool.not_eq_false]

end Report

/-- The files with an id, in their order and each with its position. -/
def members (files : List ItemFile) (id : String) : List (ItemFile × Nat) :=
  files.zipIdx.filter (·.1.HasId id)

/-- The positions of the files that are in a group of an audit, and not the first one there. -/
def laterPositions (files : List ItemFile) (found : Report) : List Nat :=
  found.shared.flatMap fun g => (members files g.1).tail.map (·.2)

/-- The files at those positions, in the order of all files. -/
def laterMembers (files : List ItemFile) (found : Report) : List ItemFile :=
  (files.zipIdx.filter fun x => x.2 ∈ laterPositions files found).map (·.1)

/-- What a run that renumbers tells about files, next to what an audit of them found. -/
structure TellsLaterMembers (root : Path) (files : List ItemFile) (told found : Report) : Prop where
  /-- A group of the audit names the files that have the id. -/
  groups : ∀ g ∈ found.shared, g.2 = (members files g.1).map fun x => Path.display root x.1.path
  /--
  The run has one finding for each member of a group but the first, in the order of the files.
  -/
  findings : told.findings.map (·.path) = (laterMembers files found).map (·.path)
  count : told.findings.length = (found.shared.map fun g => g.2.length - 1).sum
  silent : (∀ e ∈ told.entries, e.note.isUnread = true) ↔ found.shared = []

/-! ## The groups of an audit -/

section Groups

variable {files : List ItemFile}

theorem mem_members {id : String} {f : ItemFile} {i : Nat} :
    (f, i) ∈ members files id ↔ files[i]? = some f ∧ f.HasId id := by
  rw [members, List.mem_filter, List.mem_zipIdx_iff_getElem?, decide_eq_true_iff]

theorem pairwise_members (files : List ItemFile) (id : String) :
    ((members files id).map (·.2)).Pairwise (· < ·) := by
  have hall : (files.zipIdx.map (·.2)).Pairwise (· < ·) := by
    rw [List.zipIdx_map_snd]
    exact List.pairwise_lt_range'
  exact hall.sublist (List.filter_sublist.map _)

theorem map_members (files : List ItemFile) (id : String) :
    (members files id).map (·.1) = Schema.sharers files id := by
  have h :=
    List.filter_map (p := fun f : ItemFile => f.HasId id) (f := Prod.fst) (l := files.zipIdx)
  rw [List.zipIdx_map_fst] at h
  exact h.symm

/-- Behind the first of ascending numbers come those that are not the least one. -/
theorem mem_tail_iff {l : List Nat} (h : l.Pairwise (· < ·)) {i : Nat} :
    i ∈ l.tail ↔ i ∈ l ∧ ∃ j ∈ l, j < i := by
  cases l with
  | nil => simp
  | cons k l =>
      obtain ⟨hhead, -⟩ := List.pairwise_cons.1 h
      constructor
      · intro hi
        exact ⟨List.mem_cons_of_mem k hi, k, List.mem_cons_self .., hhead i hi⟩
      · rintro ⟨hi, j, hj, hlt⟩
        rcases List.mem_cons.1 hi with rfl | hi
        · rcases List.mem_cons.1 hj with rfl | hj
          · exact absurd hlt (Nat.lt_irrefl j)
          · exact absurd (hhead j hj) (Nat.lt_asymm hlt)
        · exact hi

/-- A member of a group that is not the first one repeats the id. -/
theorem mem_tail_members {id : String} {i : Nat} :
    i ∈ (members files id).tail.map (·.2) ↔
      ∃ f, files[i]? = some f ∧ f.HasId id ∧ ∃ e ∈ files.take i, e.HasId id := by
  have hmem : ∀ j, j ∈ (members files id).map (·.2) ↔ ∃ f, files[j]? = some f ∧ f.HasId id := by
    intro j
    rw [List.mem_map]
    constructor
    · rintro ⟨⟨f, _⟩, hf, rfl⟩
      exact ⟨f, mem_members.1 hf⟩
    · rintro ⟨f, hf⟩
      exact ⟨(f, j), mem_members.2 hf, rfl⟩
  rw [List.map_tail, mem_tail_iff (pairwise_members files id), hmem]
  constructor
  · rintro ⟨⟨f, hf, hid⟩, j, hj, hlt⟩
    obtain ⟨e, he, heid⟩ := (hmem j).1 hj
    refine ⟨f, hf, hid, e, ?_, heid⟩
    rw [List.mem_iff_getElem?]
    exact ⟨j, by rw [List.getElem?_take_of_lt hlt, he]⟩
  · rintro ⟨f, hf, hid, e, he, heid⟩
    obtain ⟨j, hj⟩ := List.mem_iff_getElem?.1 he
    rw [List.getElem?_take] at hj
    split at hj
    · rename_i hlt
      exact ⟨⟨f, hf, hid⟩, j, (hmem j).2 ⟨e, hj, heid⟩, hlt⟩
    · cases hj

theorem repeats_iff {f : ItemFile} {earlier : List ItemFile} :
    f.Repeats earlier ↔ ∃ id, f.HasId id ∧ ∃ e ∈ earlier, e.HasId id := by
  simp only [ItemFile.Repeats, ItemFile.hasId_iff]

theorem mem_laterPositions {s : Schema} {today : Date} {root : Path} {i : Nat} :
    i ∈ laterPositions files (s.audit today root files) ↔
      ∃ f, files[i]? = some f ∧ f.Repeats (files.take i) := by
  rw [laterPositions, Schema.shared_audit, List.flatMap_map, List.mem_flatMap]
  simp only [mem_tail_members, repeats_iff]
  constructor
  · rintro ⟨id, -, f, hf, hid, hearlier⟩
    exact ⟨f, hf, id, hid, hearlier⟩
  · rintro ⟨f, hf, id, hid, e, he, heid⟩
    refine ⟨id, ?_, f, hf, hid, e, he, heid⟩
    -- The earlier file stands in front of this one, so the group has two members.
    have hsub : [e, f].Sublist files := by
      have hdrop : f ∈ files.drop i :=
        List.mem_iff_getElem?.2 ⟨0, by rw [List.getElem?_drop]; exact hf⟩
      have h := (List.singleton_sublist.2 he).append (List.singleton_sublist.2 hdrop)
      rwa [List.take_append_drop] at h
    have hlen : (Schema.sharers [e, f] id).length ≤ (Schema.sharers files id).length :=
      (hsub.filter _).length_le
    rw [Schema.sharers_cons_of_hasId heid, Schema.sharers_cons_of_hasId hid] at hlen
    exact Schema.mem_sharedIds.2 hlen

theorem nodup_laterPositions (s : Schema) (today : Date) (root : Path) (files : List ItemFile) :
    (laterPositions files (s.audit today root files)).Nodup := by
  rw [laterPositions, Schema.shared_audit, List.flatMap_map, List.nodup_flatMap]
  refine ⟨fun id _ => ?_, (Schema.pairwise_sharedIds files).imp ?_⟩
  · rw [List.map_tail]
    exact ((pairwise_members files id).sublist (List.tail_sublist _)).imp Nat.ne_of_lt
  · intro id id' hlt i hi hi'
    obtain ⟨f, hf, hid, -⟩ := mem_tail_members.1 hi
    obtain ⟨g, hg, hid', -⟩ := mem_tail_members.1 hi'
    obtain rfl := Option.some.inj (hf.symm.trans hg)
    obtain rfl := hid.unique hid'
    exact List.lt_irrefl _ hlt

/-- There are as many later members as there are later positions. -/
theorem length_laterMembers (s : Schema) (today : Date) (root : Path) (files : List ItemFile) :
    (laterMembers files (s.audit today root files)).length =
      (laterPositions files (s.audit today root files)).length := by
  let found := s.audit today root files
  have hperm : ((files.zipIdx.filter fun x => x.2 ∈ laterPositions files found).map (·.2)).Perm
      (laterPositions files found) := by
    have hnodup : (files.zipIdx.map (·.2)).Nodup := by
      rw [List.zipIdx_map_snd]
      exact List.nodup_range'
    refine (List.perm_ext_iff_of_nodup (hnodup.sublist (List.filter_sublist.map _))
      (nodup_laterPositions s today root files)).2 fun i => ?_
    rw [List.mem_map]
    constructor
    · rintro ⟨x, hx, rfl⟩
      exact of_decide_eq_true (List.mem_filter.1 hx).2
    · intro hi
      obtain ⟨f, hf, -⟩ := mem_laterPositions.1 hi
      exact ⟨(f, i), List.mem_filter.2 ⟨List.mem_zipIdx_iff_getElem?.2 hf, decide_eq_true hi⟩, rfl⟩
  rw [laterMembers, List.length_map, ← hperm.length_eq, List.length_map]

end Groups

/-! ## What a run tells -/

namespace Numbering

variable {s : Schema} {files : List ItemFile}

/-- What a step reports, if there is one. -/
def entriesOf (step : Option PlanStep) : List ReportEntry :=
  step.toList.flatMap fun step => Report.about step.path step.notes

theorem entries_reportOf_cons (step : Option PlanStep) (steps : List (Option PlanStep)) :
    (PlanStep.reportOf ((step :: steps).filterMap id)).entries =
      entriesOf step ++ (PlanStep.reportOf (steps.filterMap id)).entries := by
  cases step with
  | none => rfl
  | some step => simp [entriesOf, PlanStep.reportOf]

/--
A step has one finding about its file if that repeats the id of an earlier one, and else none.
-/
theorem Treated.findings {earlier : List ItemFile} {f g : ItemFile} {step : Option PlanStep}
    (h : Treated s files earlier f step g) :
    (f.Repeats earlier ∧ (Report.mk (entriesOf step)).findings.map (·.path) = [f.path]) ∨
      (¬f.Repeats earlier ∧ (Report.mk (entriesOf step)).findings = []) := by
  cases h with
  | unread hdoc =>
      refine .inr ⟨?_, rfl⟩
      rintro ⟨id, hid, -⟩
      rw [ItemFile.id?, hdoc] at hid
      cases hid
  | kept _ hnot => exact .inr ⟨hnot, rfl⟩
  | renumbered _ hrep => exact .inl ⟨hrep, rfl⟩
  | stuck _ _ hrep => exact .inl ⟨hrep, rfl⟩

/-- The findings of a run are about the files that repeat an id, in their order. -/
theorem findings_planFrom {positions : List Nat}
    (hpositions : ∀ i f, files[i]? = some f → (i ∈ positions ↔ f.Repeats (files.take i)))
    {fs : List ItemFile} : ∀ {earlier : List ItemFile} {ids : Ids},
      Sees files earlier ids → earlier ++ fs = files →
      (PlanStep.reportOf ((planFrom s ids fs).filterMap id)).findings.map (·.path) =
        ((fs.zipIdx earlier.length).filter fun x => x.2 ∈ positions).map (·.1.path) := by
  induction fs with
  | nil => exact fun _ _ => rfl
  | cons f fs ih =>
      intro earlier ids h hfiles
      have hf : f ∈ files := hfiles ▸ List.mem_append_right _ (List.mem_cons_self ..)
      have hnext := nextStep_settle s h hf
      have hrest := ih hnext.sees (by rw [List.append_assoc]; exact hfiles)
      have hhere : earlier.length ∈ positions ↔ f.Repeats earlier := by
        have hget : files[earlier.length]? = some f := by
          rw [← hfiles, List.getElem?_append_right (Nat.le_refl _), Nat.sub_self]
          rfl
        rw [hpositions _ f hget, ← hfiles, List.take_left]
      rw [List.length_append, List.length_singleton] at hrest
      rw [planFrom_cons, Report.findings, entries_reportOf_cons, List.filter_append,
        List.map_append, List.zipIdx_cons, List.filter_cons]
      rcases hnext.treated.findings with ⟨hrep, htold⟩ | ⟨hnot, htold⟩
      · rw [if_pos (decide_eq_true (hhere.2 hrep)), List.map_cons]
        exact congrArg₂ (· ++ ·) htold hrest
      · rw [if_neg (by simpa using fun hin => hnot (hhere.1 hin))]
        exact congrArg₂ (· ++ ·) (congrArg (List.map _) htold) hrest

/-- A run that could write everything carried out its plan. -/
theorem carriesOut_of_written {dryRun : Bool} {root : Path} {fs : List ItemFile} :
    ∀ {ids : Ids} {d : Disk},
      (∀ e ∈ (runFiles s dryRun root ids fs d).1, ∀ cause, e.note ≠ .unwritten cause) →
      ∃ last, PlanStep.CarriesOut dryRun root ((planFrom s ids fs).filterMap id) d last := by
  induction fs with
  | nil => exact fun _ => ⟨_, .nil _⟩
  | cons f fs ih =>
      intro ids d hwritten
      rw [planFrom_cons]
      rw [runFiles] at hwritten
      cases hstep : (ids.settle s f).1.step? s f.path with
      | none =>
          simp only [hstep] at hwritten
          rw [List.filterMap_cons_none (f := id) rfl]
          exact ih hwritten
      | some step =>
          simp only [hstep] at hwritten
          rw [List.filterMap_cons_some (f := id) rfl]
          cases hdone : step.carryOut dryRun d root with
          | error e =>
              rw [hdone] at hwritten
              exact absurd rfl (hwritten ⟨step.path, .unwritten e⟩ (List.mem_cons_self ..) e)
          | ok next =>
              rw [hdone] at hwritten
              obtain ⟨last, hlast⟩ := ih fun e he => hwritten e (List.mem_append_right _ he)
              exact ⟨last, .cons hdone hlast⟩

/-- Nothing fails to be written in a dry run. -/
theorem written_of_dry (s : Schema) (root : Path) (ids : Ids) (fs : List ItemFile) (d : Disk) :
    ∀ e ∈ (runFiles s true root ids fs d).1, ∀ cause, e.note ≠ .unwritten cause := by
  rw [runFiles_of_carriesOut (PlanStep.carriesOut_dry root _ d)]
  intro e he cause hnote
  obtain ⟨step, hstep, he⟩ := List.mem_flatMap.1 he
  obtain ⟨note, hmem, rfl⟩ := List.mem_map.1 he
  obtain ⟨_, hsome, rfl⟩ := List.mem_filterMap.1 hstep
  obtain ⟨⟨path, outcome⟩, -, hsome⟩ := List.mem_map.1 hsome
  cases outcome with
  | kept => cases hsome
  | _ =>
      cases hsome
      obtain rfl := List.mem_singleton.1 hmem
      cases hnote

theorem carriesOut_of_runFiles {dryRun : Bool} {root : Path} {ids : Ids} {fs : List ItemFile}
    {d last : Disk} {entries : List ReportEntry}
    (hrun : runFiles s dryRun root ids fs d = (entries, last))
    (hwritten : dryRun = false → ∀ e ∈ entries, ∀ cause, e.note ≠ .unwritten cause) :
    PlanStep.CarriesOut dryRun root ((planFrom s ids fs).filterMap id) d last := by
  have hall : ∀ e ∈ (runFiles s dryRun root ids fs d).1, ∀ cause, e.note ≠ .unwritten cause := by
    cases dryRun with
    | false => rw [hrun]; exact hwritten rfl
    | true => exact written_of_dry s root ids fs d
  obtain ⟨last', hcarry⟩ := carriesOut_of_written hall
  obtain ⟨-, rfl⟩ := Prod.mk.inj (hrun.symm.trans (runFiles_of_carriesOut hcarry))
  exact hcarry

/-- On a disk as there are some, a run that writes can write everything. -/
theorem exists_written (s : Schema) {d : Disk} (hd : d.IsSound) {root : Path}
    {files : List ItemFile} (hitems : d.items root = .ok files) :
    ∃ told behind, run s false d root = (.ok told, behind) ∧
      ∀ e ∈ told.entries, ∀ cause, e.note ≠ .unwritten cause := by
  have hdry : (run s true d root).1 =
      .ok ⟨(runFiles s true root ⟨files.filterMap ItemFile.id?, []⟩ files d).1⟩ := by
    rw [run, hitems]
  exact ⟨_, _, Prod.ext ((run_dry s hd root).1.symm.trans hdry) rfl,
    written_of_dry s root _ files d⟩

end Numbering

/-- A report whose findings are about the files that repeat an id fits an audit of the files. -/
theorem tellsLaterMembers_of_findings {s : Schema} {today : Date} {root : Path}
    {files : List ItemFile} {told : Report}
    (h : told.findings.map (·.path) =
      (laterMembers files (s.audit today root files)).map (·.path)) :
    TellsLaterMembers root files told (s.audit today root files) := by
  have hgroup : ∀ g ∈ (s.audit today root files).shared,
      g.2 = (members files g.1).map (fun x => Path.display root x.1.path) ∧ 2 ≤ g.2.length := by
    rw [Schema.shared_audit]
    intro g hg
    obtain ⟨id, hid, rfl⟩ := List.mem_map.1 hg
    refine ⟨?_, ?_⟩
    · rw [← map_members, Schema.shown, List.map_map]
      rfl
    · rw [Schema.shown, List.length_map]
      exact Schema.mem_sharedIds.1 hid
  have hcount : told.findings.length =
      ((s.audit today root files).shared.map fun g => g.2.length - 1).sum := by
    have hlen := congrArg List.length h
    rw [List.length_map, List.length_map, length_laterMembers, laterPositions,
      List.length_flatMap] at hlen
    rw [hlen]
    refine congrArg List.sum (List.map_congr_left fun g hg => ?_)
    rw [List.length_map, List.length_tail, (hgroup g hg).1, List.length_map]
  refine ⟨fun g hg => (hgroup g hg).1, h, hcount, ?_⟩
  rw [← Report.findings_eq_nil_iff]
  constructor
  · intro hnone
    rw [hnone, List.length_nil] at hcount
    refine List.eq_nil_iff_forall_not_mem.2 fun g hg => ?_
    have hzero := List.sum_eq_zero_iff_forall_eq_nat.1 hcount.symm _ (List.mem_map_of_mem hg)
    have htwo := (hgroup g hg).2
    omega
  · intro hnone
    rw [hnone] at hcount
    exact List.length_eq_zero_iff.1 hcount

/-- A run over files that could write everything has its findings about the later members. -/
theorem tellsLaterMembers_of_runFiles {s : Schema} {root : Path} {dryRun : Bool} {d behind : Disk}
    (today : Date) {files : List ItemFile} {entries : List ReportEntry}
    (hrun : Numbering.runFiles s dryRun root ⟨files.filterMap ItemFile.id?, []⟩ files d =
      (entries, behind))
    (hwritten : dryRun = false → ∀ e ∈ entries, ∀ cause, e.note ≠ .unwritten cause) :
    TellsLaterMembers root files ⟨entries⟩ (s.audit today root files) := by
  have hcarry := Numbering.carriesOut_of_runFiles hrun hwritten
  obtain ⟨rfl, -⟩ := Prod.mk.inj (hrun.symm.trans (Numbering.runFiles_of_carriesOut hcarry))
  refine tellsLaterMembers_of_findings ?_
  have hpositions : ∀ i f, files[i]? = some f →
      (i ∈ laterPositions files (s.audit today root files) ↔ f.Repeats (files.take i)) := by
    intro i f hf
    rw [mem_laterPositions]
    constructor
    · rintro ⟨g, hg, hrep⟩
      exact Option.some.inj (hf.symm.trans hg) ▸ hrep
    · exact fun hrep => ⟨f, hf, hrep⟩
  rw [laterMembers, List.map_map]
  exact Numbering.findings_planFrom hpositions (Numbering.sees_start files) (List.nil_append _)

/--
A run that renumbers and could write everything has something to say about the files that an audit
finds to share an id with an earlier one, and about no others. The same holds for the files of a
project.
-/
theorem renumbering_tells_later_members (s : Schema) (today : Date) (root : Path) (dryRun : Bool)
    (d : Disk) :
    (∀ files entries behind,
      Numbering.runFiles s dryRun root ⟨files.filterMap ItemFile.id?, []⟩ files d =
        (entries, behind) →
      (dryRun = false → ∀ e ∈ entries, ∀ cause, e.note ≠ .unwritten cause) →
      TellsLaterMembers root files ⟨entries⟩ (s.audit today root files)) ∧
    ∀ told behind, Numbering.run s dryRun d root = (.ok told, behind) →
      (dryRun = false → ∀ e ∈ told.entries, ∀ cause, e.note ≠ .unwritten cause) →
      ∃ files found, d.items root = .ok files ∧ s.auditProject today d root = .ok found ∧
        TellsLaterMembers root files told found := by
  constructor
  · intro files entries behind hrun hwritten
    exact tellsLaterMembers_of_runFiles today hrun hwritten
  · intro told behind hrun hwritten
    rw [Numbering.run] at hrun
    cases hitems : d.items root with
    | error e =>
        rw [hitems] at hrun
        cases hrun
    | ok files =>
        rw [hitems] at hrun
        obtain rfl : _ = told := Except.ok.inj (congrArg Prod.fst hrun)
        have haudit : s.auditProject today d root = .ok (s.audit today root files) := by
          rw [Schema.auditProject, hitems]
          rfl
        exact ⟨files, _, rfl, haudit, tellsLaterMembers_of_runFiles today rfl hwritten⟩

/-- A disk with two work items of one id, which is written differently. -/
def Disk.twoSevens : Disk :=
  ⟨.directory [
    ("a.md",
      .file (.text "---\nid: 7\ntitle: T\nstatus: todo\nkind: task\ncreated: 2024-01-02\n---\n")),
    ("b.md",
      .file
        (.text "---\nid: ' 7 '\ntitle: T\nstatus: todo\nkind: task\ncreated: 2024-01-02\n---\n"))],
    []⟩

theorem Disk.isSound_twoSevens : Disk.twoSevens.IsSound where
  top := rfl
  tree := ⟨List.pairwise_pair.2 (by decide), by decide, trivial, by decide, trivial, trivial⟩

namespace Numbering

/-- A run that writes gives a new id to the second one of two, and tells nothing else. -/
theorem exists_runFiles_sharedPair :
    ∃ entries behind,
      runFiles default false ⟨"."⟩ ⟨Schema.sharedPair.filterMap ItemFile.id?, []⟩ Schema.sharedPair
        .twoSevens = (entries, behind) ∧
      entries.map (·.path.text) = ["b.md"] ∧ ∀ e ∈ entries, ∃ c, e.note = .change c := by
  have hentries : (runFiles default false ⟨"."⟩ ⟨Schema.sharedPair.filterMap ItemFile.id?, []⟩
      Schema.sharedPair .twoSevens).1.map (fun e => (e.path.text, e.note matches .change _)) =
        [("b.md", true)] := by decide +kernel
  cases hrun : runFiles default false ⟨"."⟩ ⟨Schema.sharedPair.filterMap ItemFile.id?, []⟩
      Schema.sharedPair .twoSevens with
  | mk entries behind =>
      rw [hrun] at hentries
      obtain ⟨e, rfl, he⟩ := List.map_eq_singleton_iff.1 hentries
      obtain ⟨hpath, hnote⟩ := Prod.mk.inj he
      refine ⟨_, behind, rfl, congrArg (fun path => [path]) hpath, List.forall_mem_singleton.2 ?_⟩
      split at hnote
      · exact ⟨_, ‹_›⟩
      · cases hnote

theorem exists_run_twoSevens :
    ∃ told behind, run default false .twoSevens ⟨"."⟩ = (.ok told, behind) ∧
      ∀ e ∈ told.entries, ∀ cause, e.note ≠ .unwritten cause := by
  have hpaths : Disk.twoSevens.discover ⟨"."⟩ = .ok [⟨"./a.md"⟩, ⟨"./b.md"⟩] := rfl
  have hitems : Disk.twoSevens.items ⟨"."⟩ =
      .ok ([⟨"./a.md"⟩, ⟨"./b.md"⟩].map (ItemFile.read .twoSevens)) := by
    rw [Disk.items, hpaths]
  exact exists_written default Disk.isSound_twoSevens hitems

end Numbering

/--
A run that writes has something to say about the second one, and so it is for the whole project.
-/
theorem renumbering_tells_later_members_twoSevens :
    (∃ entries behind,
      Numbering.runFiles default false ⟨"."⟩ ⟨Schema.sharedPair.filterMap ItemFile.id?, []⟩
        Schema.sharedPair .twoSevens = (entries, behind) ∧
      (∀ e ∈ entries, ∀ cause, e.note ≠ .unwritten cause) ∧
      (Report.mk entries).findings.map (·.path.text) = ["b.md"]) ∧
    ∃ told behind files found,
      Numbering.run default false .twoSevens ⟨"."⟩ = (.ok told, behind) ∧
      (∀ e ∈ told.entries, ∀ cause, e.note ≠ .unwritten cause) ∧
      TellsLaterMembers ⟨"."⟩ files told found := by
  obtain ⟨hfiles, hproject⟩ :=
    renumbering_tells_later_members default DateFormat.january ⟨"."⟩ false .twoSevens
  constructor
  · obtain ⟨entries, behind, hrun, -, hchanges⟩ := Numbering.exists_runFiles_sharedPair
    have hwritten : ∀ e ∈ entries, ∀ cause, e.note ≠ .unwritten cause := by
      intro e he cause hnote
      obtain ⟨c, hc⟩ := hchanges e he
      cases hc.symm.trans hnote
    have hlater : (laterMembers Schema.sharedPair (Schema.audit default DateFormat.january ⟨"."⟩
        Schema.sharedPair)).map (·.path.text) = ["b.md"] := by decide +kernel
    have hfindings := congrArg (List.map Path.text)
      (hfiles _ entries behind hrun fun _ => hwritten).findings
    rw [List.map_map, List.map_map] at hfindings
    exact ⟨entries, behind, hrun, hwritten, hfindings.trans hlater⟩
  · obtain ⟨told, behind, hrun, hwritten⟩ := Numbering.exists_run_twoSevens
    obtain ⟨files, found, -, -, h⟩ := hproject told behind hrun fun _ => hwritten
    exact ⟨told, behind, files, found, hrun, hwritten, h⟩

/-! ## What a run leaves behind -/

namespace Numbering

/--
What a run has done with files in order: for each of them `plan` has the step that was taken, or
none if the file was left alone without a word. Then `entries` are what it reported, and `last` is
the disk that it left.
-/
structure Settles (s : Schema) (dryRun : Bool) (root : Path) (files : List ItemFile) (d : Disk)
    (plan : List (Option PlanStep)) (entries : List ReportEntry) (last : Disk) : Prop where
  length : plan.length = files.length
  treated : ∀ (i : Nat) (f : ItemFile) (step : Option PlanStep), files[i]? = some f →
    plan[i]? = some step → Treated s files (files.take i) f step (f.behind step)
  newIds : (plan.filterMap (·.bind PlanStep.newId?)).Nodup
  reported : entries = (PlanStep.reportOf (plan.filterMap id)).entries
  carriedOut : PlanStep.CarriesOut dryRun root (plan.filterMap id) d last
  /--
  Without a file that found no free id, an audit of what is behind the steps finds no shared id.
  -/
  unshared : (∀ e ∈ entries, ∀ id format, e.note ≠ .noFreeId id format) →
    ∀ today, ∀ e ∈ (s.audit today root (List.zipWith ItemFile.behind files plan)).entries,
      ∀ id paths, e.note ≠ .sharedId id paths

/-- A run over files that could write everything has settled them. -/
theorem settles_of_runFiles {s : Schema} {dryRun : Bool} {root : Path} {files : List ItemFile}
    {d last : Disk} {entries : List ReportEntry}
    (hrun : runFiles s dryRun root ⟨files.filterMap ItemFile.id?, []⟩ files d = (entries, last))
    (hwritten : dryRun = false → ∀ e ∈ entries, ∀ cause, e.note ≠ .unwritten cause) :
    Settles s dryRun root files d (plan s files) entries last := by
  have hcarry := carriesOut_of_runFiles hrun hwritten
  have hentries := (Prod.mk.inj (hrun.symm.trans (runFiles_of_carriesOut hcarry))).1
  obtain ⟨hlength, -, htreated, hnodup, -⟩ := run_spec s DateFormat.january root files
  exact {
    length := hlength
    treated := htreated
    newIds := hnodup
    reported := hentries
    carriedOut := hcarry
    unshared := fun hfree today => by
      obtain ⟨-, hsteps, -, -, hshared⟩ := run_spec s today root files
      exact hshared fun e he => hfree e (by rw [hentries]; exact hsteps ▸ he) }

end Numbering

/--
A run that renumbers and could write everything leaves alone what it cannot read, what has a blank
id and the first file with an id. Each other file gets an id that no file had and no other file
gets, and nothing else of it changes, or is told to have found none. If none is, no two files share
an id any more. The same holds for the files of a project, which then hold on the disk what the run
made of them.
-/
theorem renumbering_leaves_no_shared_id (s : Schema) (dryRun : Bool) (root : Path) (d : Disk) :
    (∀ files entries last,
      Numbering.runFiles s dryRun root ⟨files.filterMap ItemFile.id?, []⟩ files d =
        (entries, last) →
      (dryRun = false → ∀ e ∈ entries, ∀ cause, e.note ≠ .unwritten cause) →
      ∃ plan, Numbering.Settles s dryRun root files d plan entries last) ∧
    ∀ told last, Numbering.run s dryRun d root = (.ok told, last) →
      (dryRun = false → ∀ e ∈ told.entries, ∀ cause, e.note ≠ .unwritten cause) →
      ∃ files plan, d.items root = .ok files ∧
        Numbering.Settles s dryRun root files d plan told.entries last ∧
        (d.IsSound → dryRun = false →
          Rewrites (Numbering.Renumbered told) files told d last) := by
  constructor
  · intro files entries last hrun hwritten
    exact ⟨_, Numbering.settles_of_runFiles hrun hwritten⟩
  · intro told last hrun hwritten
    have hwhole := hrun
    rw [Numbering.run] at hrun
    cases hitems : d.items root with
    | error e =>
        rw [hitems] at hrun
        cases hrun
    | ok files =>
        rw [hitems] at hrun
        obtain ⟨htold, hlast⟩ := Prod.mk.inj hrun
        obtain rfl := Except.ok.inj htold
        refine ⟨files, _, rfl, Numbering.settles_of_runFiles (Prod.ext rfl hlast) hwritten, ?_⟩
        rintro hd rfl
        obtain ⟨-, -, hrewrites⟩ := Numbering.run_dry s hd root
        rw [hwhole] at hrewrites
        obtain ⟨files', hitems', h⟩ := hrewrites _ rfl
        obtain rfl := Except.ok.inj (hitems.symm.trans hitems')
        exact h

/-- The second of two files with one id gets a new one, as a file of a project too. -/
theorem renumbering_leaves_no_shared_id_twoSevens :
    (∃ plan entries last,
      Numbering.Settles default false ⟨"."⟩ Schema.sharedPair .twoSevens plan entries last ∧
      entries.map (·.path.text) = ["b.md"] ∧
      ∀ e ∈ (Schema.audit default DateFormat.january ⟨"."⟩
        (List.zipWith ItemFile.behind Schema.sharedPair plan)).entries,
          ∀ id paths, e.note ≠ .sharedId id paths) ∧
    ∃ told last files plan, Numbering.run default false .twoSevens ⟨"."⟩ = (.ok told, last) ∧
      Numbering.Settles default false ⟨"."⟩ files .twoSevens plan told.entries last ∧
      Rewrites (Numbering.Renumbered told) files told .twoSevens last := by
  obtain ⟨hfiles, hproject⟩ := renumbering_leaves_no_shared_id default false ⟨"."⟩ .twoSevens
  constructor
  · obtain ⟨entries, last, hrun, hpaths, hchanges⟩ := Numbering.exists_runFiles_sharedPair
    have hchange : ∀ note, (∀ c, note ≠ .change c) → ∀ e ∈ entries, e.note ≠ note := by
      rintro note hnote e he rfl
      obtain ⟨c, hc⟩ := hchanges e he
      exact hnote c hc
    obtain ⟨plan, h⟩ := hfiles _ entries last hrun fun _ e he cause => hchange _ (by simp) e he
    have hfree : ∀ e ∈ entries, ∀ id format, e.note ≠ .noFreeId id format :=
      fun e he id format => hchange _ (by simp) e he
    exact ⟨plan, entries, last, h, hpaths, h.unshared hfree DateFormat.january⟩
  · obtain ⟨told, last, hrun, hwritten⟩ := Numbering.exists_run_twoSevens
    obtain ⟨files, plan, -, h, hrewrites⟩ := hproject told last hrun fun _ => hwritten
    exact ⟨told, last, files, plan, hrun, h, hrewrites Disk.isSound_twoSevens rfl⟩

end WorkItems
