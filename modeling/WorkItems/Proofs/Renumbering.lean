import WorkItems.Plan
import WorkItems.Proofs.Audit
import WorkItems.Proofs.Numbering
/-!
# Renumbering files that share an id

A run that renumbers goes through the files in order and keeps two lists of ids: those that have an
owner among the files it has seen, and those that a new id must differ from. What holds of these
lists between two files is `Sees`. The step from one file to the next is `nextStep_settle`, and the
lemmas about a whole run are inductions over the files that are left.

Two files could share an id behind a run in two ways. A file that keeps its id might have the id of
an earlier one, but then the id has an owner and the file does not keep it. And a new id might be
that of another file, but it differs from all ids that are in use, and those of later files are in
use from the start.
-/

namespace WorkItems

/-! ## What becomes of each file -/

/-- An earlier file has the id of this one. -/
def ItemFile.Repeats (earlier : List ItemFile) (f : ItemFile) : Prop :=
  ∃ id, f.id? = some id ∧ ∃ e ∈ earlier, e.id? = some id

/-- The id that a step gives to its file. -/
def PlanStep.newId? (step : PlanStep) : Option String := step.document.map (·.item.id)

/-- A file behind its step, if the step could write what it wanted. -/
def ItemFile.behind (f : ItemFile) (step : Option PlanStep) : ItemFile :=
  match step.bind PlanStep.document with
  | some d => ⟨f.path, .ok d⟩
  | none => f

namespace Numbering

/-- The steps for files in order, with none for a file that is left alone without a word. -/
def planFrom (s : Schema) (ids : Ids) (files : List ItemFile) : List (Option PlanStep) :=
  (outcomes s ids files).map fun (path, o) => o.step? s path

/-- The step of each of the files. -/
def plan (s : Schema) (files : List ItemFile) : List (Option PlanStep) :=
  planFrom s ⟨files.filterMap ItemFile.id?, []⟩ files

/-- The files behind a run that could write what it wanted. -/
def behind (s : Schema) (files : List ItemFile) : List ItemFile :=
  List.zipWith ItemFile.behind files (plan s files)

/-- The document with another id. -/
def withId (d : Document) (new : String) : Document := { d with item := { d.item with id := new } }

/--
What a run does with a file `f` of `files` that has the files `earlier` in front of it: the step
that is taken, and the file behind it.
-/
inductive Treated (s : Schema) (files earlier : List ItemFile) (f : ItemFile) :
    Option PlanStep → ItemFile → Prop
  /-- A file that cannot be read is reported and left alone. -/
  | unread {cause : ReadError} : f.document = .error cause →
      Treated s files earlier f (some (.report f.path (.unread cause))) f
  /-- A file with a blank id, or the first one with its id, is left alone. -/
  | kept {d : Document} : f.document = .ok d → ¬f.Repeats earlier →
      Treated s files earlier f none f
  /-- Any other file gets a new id, and nothing else of it changes. -/
  | renumbered {d : Document} {new : String} : f.document = .ok d → f.Repeats earlier →
      s.idMatches new = true → Text.strip new = new →
      (∀ g ∈ files, ∀ e, g.document = .ok e → Text.strip e.item.id ≠ new) →
      Treated s files earlier f
        (some ⟨f.path, [.change (.fixed "id" d.item.id new)], some (withId d new)⟩)
        ⟨f.path, .ok (withId d new)⟩
  /-- Without a free id it is reported and left alone. -/
  | stuck {d : Document} {id : String} : f.document = .ok d → f.id? = some id →
      f.Repeats earlier →
      Treated s files earlier f (some (.report f.path (.noFreeId id s.idFormat))) f

/-! ## One step -/

/-- What a run knows about ids between the files `earlier` and the rest of `files`. -/
structure Sees (files earlier : List ItemFile) (ids : Ids) : Prop where
  used : ∀ g ∈ files, ∀ id, g.id? = some id → id ∈ ids.used
  owned : ∀ id, id ∈ ids.owned ↔ ∃ e ∈ earlier, e.id? = some id
  earlier : ∀ e ∈ earlier, e ∈ files

theorem id?_of_strip {f : ItemFile} {d : Document} {id : String} (hd : f.document = .ok d)
    (hid : Text.strip d.item.id = id) (hne : id ≠ "") : f.id? = some id := by
  simp [ItemFile.id?, hd, hid, hne]

theorem id?_withId (path : Path) (d : Document) {new : String} (h : IsId new) :
    (ItemFile.mk path (.ok (withId d new))).id? = some new := by
  simp [ItemFile.id?, withId, h.strip, h.ne_empty]

/-- The step for a file is that it found no free id. -/
def IsStuck (s : Schema) (step : Option PlanStep) : Prop :=
  ∃ path id, step = some (.report path (.noFreeId id s.idFormat))

/-- A step for the file `f`, and what the run knows in front of it and behind it. -/
structure NextStep (s : Schema) (files earlier : List ItemFile) (f : ItemFile) (ids : Ids)
    (step : Option PlanStep) (ids' : Ids) : Prop where
  treated : Treated s files earlier f step (f.behind step)
  sees : Sees files (earlier ++ [f]) ids'
  used_subset : ids.used ⊆ ids'.used
  owned_subset : ids.owned ⊆ ids'.owned
  new_id : ∀ new, step.bind PlanStep.newId? = some new → new ∉ ids.used ∧ new ∈ ids'.used
  /-- The id behind the step is new, or it had no owner and has one now. -/
  id_behind : ¬IsStuck s step → ∀ id, (f.behind step).id? = some id →
    (id ∉ ids.used ∧ id ∈ ids'.used) ∨ (f.id? = some id ∧ id ∉ ids.owned ∧ id ∈ ids'.owned)

section Step

variable {s : Schema} {files earlier : List ItemFile} {ids : Ids} {f : ItemFile}

theorem Sees.used_of_owned (h : Sees files earlier ids) {id : String} (hid : id ∈ ids.owned) :
    id ∈ ids.used := by
  obtain ⟨e, he, hid⟩ := (h.owned id).1 hid
  exact h.used e (h.earlier e he) id hid

/-- A file whose id has an owner already adds nothing. -/
theorem Sees.skip (h : Sees files earlier ids) (hf : f ∈ files)
    (hid : ∀ id, f.id? = some id → id ∈ ids.owned) : Sees files (earlier ++ [f]) ids where
  used := h.used
  owned id := by
    rw [h.owned]
    constructor
    · rintro ⟨e, he, hid⟩
      exact ⟨e, List.mem_append_left _ he, hid⟩
    · rintro ⟨e, he, hi⟩
      rcases List.mem_append.1 he with he | he
      · exact ⟨e, he, hi⟩
      · obtain rfl := List.mem_singleton.1 he
        exact (h.owned id).1 (hid id hi)
  earlier e he := (List.mem_append.1 he).elim (h.earlier e) fun he => List.mem_singleton.1 he ▸ hf

theorem Sees.skip_owned (h : Sees files earlier ids) (hf : f ∈ files) {id : String}
    (hid : f.id? = some id) (howned : id ∈ ids.owned) : Sees files (earlier ++ [f]) ids :=
  h.skip hf fun _ hi => Option.some.inj (hi.symm.trans hid) ▸ howned

/-- A file with an id becomes its owner. -/
theorem Sees.own (h : Sees files earlier ids) (hf : f ∈ files) {id : String}
    (hid : f.id? = some id) :
    Sees files (earlier ++ [f]) { ids with owned := id :: ids.owned } where
  used := h.used
  owned i := by
    rw [List.mem_cons, h.owned]
    constructor
    · rintro (rfl | ⟨e, he, hi⟩)
      · exact ⟨f, by simp, hid⟩
      · exact ⟨e, List.mem_append_left _ he, hi⟩
    · rintro ⟨e, he, hi⟩
      rcases List.mem_append.1 he with he | he
      · exact .inr ⟨e, he, hi⟩
      · obtain rfl := List.mem_singleton.1 he
        exact .inl (Option.some.inj (hi.symm.trans hid))
  earlier e he := (List.mem_append.1 he).elim (h.earlier e) fun he => List.mem_singleton.1 he ▸ hf

theorem Sees.use (h : Sees files earlier ids) (new : String) :
    Sees files earlier { ids with used := new :: ids.used } where
  used g hg id hid := List.mem_cons_of_mem _ (h.used g hg id hid)
  owned := h.owned
  earlier := h.earlier

theorem Sees.repeats_iff (h : Sees files earlier ids) {id : String}
    (hid : f.id? = some id) : f.Repeats earlier ↔ id ∈ ids.owned := by
  rw [h.owned]
  constructor
  · rintro ⟨i, hi, he⟩
    exact Option.some.inj (hi.symm.trans hid) ▸ he
  · exact fun he => ⟨id, hid, he⟩

/-- A file without an id is left alone. -/
theorem nextStep_of_id?_eq_none (h : Sees files earlier ids) (hf : f ∈ files) (hid : f.id? = none)
    {step : Option PlanStep} (ht : Treated s files earlier f step f)
    (hdoc : step.bind PlanStep.document = none) : NextStep s files earlier f ids step ids where
  treated := by rwa [ItemFile.behind, hdoc]
  sees := h.skip hf (by simp [hid])
  used_subset := List.Subset.refl _
  owned_subset := List.Subset.refl _
  new_id new hnew := by
    rw [Option.bind_eq_some_iff] at hnew
    obtain ⟨p, rfl, hnew⟩ := hnew
    rw [Option.bind_some] at hdoc
    simp [PlanStep.newId?, hdoc] at hnew
  id_behind _ id hi := by
    rw [ItemFile.behind, hdoc, hid] at hi
    cases hi

section Known

variable {d : Document} {id : String} (h : Sees files earlier ids) (hf : f ∈ files)
  (hd : f.document = .ok d) (hid : f.id? = some id)
include h hf hd hid

/-- The first file with its id becomes the owner of it. -/
theorem nextStep_kept (howned : id ∉ ids.owned) :
    NextStep s files earlier f ids none { ids with owned := id :: ids.owned } where
  treated := .kept hd fun hr => howned ((h.repeats_iff hid).1 hr)
  sees := h.own hf hid
  used_subset := List.Subset.refl _
  owned_subset := List.subset_cons_self _ _
  new_id new hnew := by cases hnew
  id_behind := by
    intro _ i hi
    obtain rfl : id = i := Option.some.inj (hid.symm.trans hi)
    exact .inr ⟨hi, howned, List.mem_cons_self ..⟩

theorem nextStep_stuck (howned : id ∈ ids.owned) :
    NextStep s files earlier f ids (some (.report f.path (.noFreeId id s.idFormat))) ids where
  treated := .stuck hd hid ((h.repeats_iff hid).2 howned)
  sees := h.skip_owned hf hid howned
  used_subset := List.Subset.refl _
  owned_subset := List.Subset.refl _
  new_id new hnew := by cases hnew
  id_behind hstuck := absurd ⟨f.path, id, rfl⟩ hstuck

/-- A new id is in use from then on. -/
theorem nextStep_renumbered (howned : id ∈ ids.owned) {new : String}
    (hnext : next? s ids.used = some new) :
    NextStep s files earlier f ids
      (some ⟨f.path, [.change (.fixed "id" d.item.id new)], some (withId d new)⟩)
      { ids with used := new :: ids.used } := by
  obtain ⟨hnew, hmatch, hfresh⟩ := next?_spec hnext
  have hother : ∀ g ∈ files, ∀ e, g.document = .ok e → Text.strip e.item.id ≠ new :=
    fun g hg e he hstrip => hfresh (h.used g hg new (id?_of_strip he hstrip hnew.ne_empty))
  exact {
    treated := .renumbered hd ((h.repeats_iff hid).2 howned) hmatch hnew.strip hother
    sees := (h.skip_owned hf hid howned).use new
    used_subset := List.subset_cons_self _ _
    owned_subset := List.Subset.refl _
    new_id := by
      intro i hi
      obtain rfl : new = i := Option.some.inj hi
      exact ⟨hfresh, List.mem_cons_self ..⟩
    id_behind := by
      intro _ i hi
      obtain rfl : new = i := Option.some.inj ((id?_withId f.path d hnew).symm.trans hi)
      exact .inl ⟨hfresh, List.mem_cons_self ..⟩ }

end Known

/-- Each file is treated as it should be, and what the run knows stays right. -/
theorem nextStep_settle (s : Schema) (h : Sees files earlier ids) (hf : f ∈ files) :
    NextStep s files earlier f ids ((ids.settle s f).1.step? s f.path) (ids.settle s f).2 := by
  rw [Ids.settle]
  cases hd : f.document with
  | error cause =>
      have hid : f.id? = none := by rw [ItemFile.id?, hd]
      exact nextStep_of_id?_eq_none h hf hid (.unread hd) rfl
  | ok d =>
      cases hid : f.id? with
      | none =>
          have hnot : ¬f.Repeats earlier := by
            rintro ⟨i, hi, -⟩
            cases hi.symm.trans hid
          exact nextStep_of_id?_eq_none h hf hid (.kept hd hnot) rfl
      | some id =>
          by_cases howned : id ∈ ids.owned
          · simp only [howned, List.contains_eq_mem, decide_true, Bool.not_true, Bool.false_eq_true,
              if_false]
            cases hnext : next? s ids.used with
            | none => exact nextStep_stuck h hf hd hid howned
            | some new => exact nextStep_renumbered h hf hd hid howned hnext
          · simp only [howned, List.contains_eq_mem, decide_false, Bool.not_false, if_true]
            exact nextStep_kept h hf hd hid howned

end Step

/-! ## A whole run -/

section Run

variable {s : Schema} {files : List ItemFile}

theorem planFrom_cons (s : Schema) (ids : Ids) (f : ItemFile) (fs : List ItemFile) :
    planFrom s ids (f :: fs) =
      (ids.settle s f).1.step? s f.path :: planFrom s (ids.settle s f).2 fs := by
  rw [planFrom, outcomes, List.map_cons]
  rfl

theorem length_planFrom (s : Schema) (fs : List ItemFile) :
    ∀ ids : Ids, (planFrom s ids fs).length = fs.length := by
  induction fs with
  | nil => exact fun _ => rfl
  | cons f fs ih => exact fun ids => by rw [planFrom_cons, List.length_cons, ih, List.length_cons]

/-- Each of the files that are left is treated as it should be. -/
theorem treated_planFrom {fs : List ItemFile} :
    ∀ {earlier : List ItemFile} {ids : Ids}, Sees files earlier ids → earlier ++ fs = files →
      ∀ (i : Nat) (f : ItemFile) (step : Option PlanStep), fs[i]? = some f →
        (planFrom s ids fs)[i]? = some step →
        Treated s files (earlier ++ fs.take i) f step (f.behind step) := by
  induction fs with
  | nil => exact fun _ _ _ _ _ hf => absurd hf (by simp)
  | cons g fs ih =>
      intro earlier ids h hfiles i f step hf hstep
      have hg : g ∈ files := hfiles ▸ List.mem_append_right _ (List.mem_cons_self ..)
      have hnext := nextStep_settle s h hg
      rw [planFrom_cons] at hstep
      cases i with
      | zero =>
          obtain rfl : g = f := Option.some.inj hf
          obtain rfl := Option.some.inj hstep
          simpa using hnext.treated
      | succ i =>
          rw [List.getElem?_cons_succ] at hf hstep
          have hrest := ih hnext.sees (by rw [List.append_assoc]; exact hfiles) i f step hf hstep
          rwa [List.append_assoc] at hrest

/-- New ids differ from all that were there before, and from each other. -/
theorem nodup_newIds {fs : List ItemFile} :
    ∀ {earlier : List ItemFile} {ids : Ids}, Sees files earlier ids → earlier ++ fs = files →
      ((planFrom s ids fs).filterMap (·.bind PlanStep.newId?)).Nodup ∧
        ∀ new ∈ (planFrom s ids fs).filterMap (·.bind PlanStep.newId?), new ∉ ids.used := by
  induction fs with
  | nil => exact fun _ _ => ⟨List.nodup_nil, by simp [planFrom, outcomes]⟩
  | cons f fs ih =>
      intro earlier ids h hfiles
      have hf : f ∈ files := hfiles ▸ List.mem_append_right _ (List.mem_cons_self ..)
      have hnext := nextStep_settle s h hf
      obtain ⟨hnodup, hfresh⟩ := ih hnext.sees (by rw [List.append_assoc]; exact hfiles)
      have hold : ∀ new ∈ (planFrom s (ids.settle s f).2 fs).filterMap (·.bind PlanStep.newId?),
          new ∉ ids.used := fun new hnew hused => hfresh new hnew (hnext.used_subset hused)
      rw [planFrom_cons, List.filterMap_cons]
      split
      · exact ⟨hnodup, hold⟩
      · rename_i new hnew
        obtain ⟨hout, hin⟩ := hnext.new_id new hnew
        refine ⟨List.nodup_cons.2 ⟨fun hmem => hfresh new hmem hin, hnodup⟩, fun i hi => ?_⟩
        rcases List.mem_cons.1 hi with rfl | hi
        · exact hout
        · exact hold i hi

/-- Without a step that found no free id, no two files have one id behind a run. -/
theorem nodup_ids_behind {fs : List ItemFile} :
    ∀ {earlier : List ItemFile} {ids : Ids}, Sees files earlier ids → earlier ++ fs = files →
      (∀ step ∈ planFrom s ids fs, ¬IsStuck s step) →
      ((List.zipWith ItemFile.behind fs (planFrom s ids fs)).filterMap ItemFile.id?).Nodup ∧
        ∀ id ∈ (List.zipWith ItemFile.behind fs (planFrom s ids fs)).filterMap ItemFile.id?,
          id ∉ ids.owned ∧ (id ∉ ids.used ∨ ∃ g ∈ fs, g.id? = some id) := by
  induction fs with
  | nil => exact fun _ _ _ => ⟨List.nodup_nil, by simp⟩
  | cons f fs ih =>
      intro earlier ids h hfiles hfree
      have hf : f ∈ files := hfiles ▸ List.mem_append_right _ (List.mem_cons_self ..)
      have hfs : ∀ g ∈ fs, g ∈ files := fun g hg =>
        hfiles ▸ List.mem_append_right _ (List.mem_cons_of_mem _ hg)
      have hnext := nextStep_settle s h hf
      rw [planFrom_cons, List.forall_mem_cons] at hfree
      obtain ⟨hnodup, hrest⟩ :=
        ih hnext.sees (by rw [List.append_assoc]; exact hfiles) hfree.2
      have hold : ∀ id ∈ (List.zipWith ItemFile.behind fs
            (planFrom s (ids.settle s f).2 fs)).filterMap ItemFile.id?,
          id ∉ ids.owned ∧ (id ∉ ids.used ∨ ∃ g ∈ f :: fs, g.id? = some id) := by
        intro id hid
        obtain ⟨howned, hused⟩ := hrest id hid
        refine ⟨fun ho => howned (hnext.owned_subset ho), ?_⟩
        rcases hused with hused | ⟨g, hg, hid⟩
        · exact .inl fun hu => hused (hnext.used_subset hu)
        · exact .inr ⟨g, List.mem_cons_of_mem _ hg, hid⟩
      rw [planFrom_cons, List.zipWith_cons_cons, List.filterMap_cons]
      split
      · exact ⟨hnodup, hold⟩
      · rename_i id hid
        rcases hnext.id_behind hfree.1 id hid with ⟨hout, hin⟩ | ⟨hfid, hout, hin⟩
        · refine ⟨List.nodup_cons.2 ⟨fun hmem => ?_, hnodup⟩, fun i hi => ?_⟩
          · rcases (hrest id hmem).2 with hused | ⟨g, hg, hgid⟩
            · exact hused hin
            · exact hout (h.used g (hfs g hg) id hgid)
          · rcases List.mem_cons.1 hi with rfl | hi
            · exact ⟨fun ho => hout (h.used_of_owned ho), .inl hout⟩
            · exact hold i hi
        · refine ⟨List.nodup_cons.2 ⟨fun hmem => (hrest id hmem).1 hin, hnodup⟩, fun i hi => ?_⟩
          rcases List.mem_cons.1 hi with rfl | hi
          · exact ⟨hout, .inr ⟨f, List.mem_cons_self .., hfid⟩⟩
          · exact hold i hi

/-- At the start of a run nothing has an owner. -/
theorem sees_start (files : List ItemFile) :
    Sees files [] ⟨files.filterMap ItemFile.id?, []⟩ where
  used g hg id hid := List.mem_filterMap.2 ⟨g, hg, hid⟩
  owned := by simp
  earlier := by simp

theorem steps_eq_filterMap_plan (s : Schema) (files : List ItemFile) :
    steps s files = (plan s files).filterMap id := by
  rw [steps, plan, planFrom, List.filterMap_map]
  rfl

end Run

end Numbering

/-! ## Files that share an id -/

namespace Schema

/-- No shared id is reported where no id comes again. -/
theorem shared_audit_of_nodup (s : Schema) (today : Date) (root : Path) {files : List ItemFile}
    (h : (files.filterMap ItemFile.id?).Nodup) : (s.audit today root files).shared = [] := by
  have hpairwise : files.Pairwise fun f g => ∀ id, f.HasId id → ¬g.HasId id := by
    refine (List.pairwise_filterMap.1 h).imp ?_
    intro f g hne id hf hg
    exact hne id (ItemFile.hasId_iff.1 hf) id (ItemFile.hasId_iff.1 hg) rfl
  rw [shared_audit, List.map_eq_nil_iff, List.eq_nil_iff_forall_not_mem]
  intro id hid
  exact absurd (mem_sharedIds.1 hid) (Nat.not_le.2 (Nat.lt_succ_of_le
    (pairwise_not_hasId_iff.1 hpairwise id)))

end Schema

namespace Numbering

/--
The plan of a run over files in order. Each file is treated as `Treated` says, the steps that are
reported are those of the plan, no new id is given twice, and unless a file found no free id, no
files share an id behind their steps.
-/
theorem run_spec (s : Schema) (today : Date) (root : Path) (files : List ItemFile) :
    (plan s files).length = files.length ∧
      steps s files = (plan s files).filterMap id ∧
      (∀ (i : Nat) (f : ItemFile) (step : Option PlanStep), files[i]? = some f →
        (plan s files)[i]? = some step → Treated s files (files.take i) f step (f.behind step)) ∧
      ((plan s files).filterMap (·.bind PlanStep.newId?)).Nodup ∧
      ((∀ e ∈ (PlanStep.reportOf (steps s files)).entries, ∀ id format,
          e.note ≠ .noFreeId id format) →
        ∀ e ∈ (s.audit today root (behind s files)).entries, ∀ id paths,
          e.note ≠ .sharedId id paths) := by
  have hstart := sees_start files
  refine ⟨length_planFrom s files _, steps_eq_filterMap_plan s files,
    treated_planFrom hstart (List.nil_append _), (nodup_newIds hstart (List.nil_append _)).1, ?_⟩
  intro hfree
  have hstuck : ∀ step ∈ plan s files, ¬IsStuck s step := by
    rintro step hstep ⟨path, id, rfl⟩
    refine hfree ⟨path, .noFreeId id s.idFormat⟩ ?_ id s.idFormat rfl
    refine List.mem_flatMap.2 ⟨.report path (.noFreeId id s.idFormat), ?_, List.mem_singleton.2 rfl⟩
    rw [steps_eq_filterMap_plan]
    exact List.mem_filterMap.2 ⟨_, hstep, rfl⟩
  exact Report.shared_eq_nil_iff.1 (Schema.shared_audit_of_nodup s today root
    (nodup_ids_behind hstart (List.nil_append _) hstuck).1)

end Numbering
end WorkItems
