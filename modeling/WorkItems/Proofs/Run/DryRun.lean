import Mathlib.Data.List.Nodup
import WorkItems.Proofs.Discovery
import WorkItems.Proofs.Renumbering
import WorkItems.Proofs.Run.Failure
/-!
# Dry runs

A dry run reports what a run that writes would report, and writes nothing. What makes this hold is
that all files are read before the first is written: the steps of a run (`Repair.steps`,
`Numbering.steps`) follow from what was read, so they are the same for both, and on a disk as there
are some every step can be carried out. So the disk behind a run that writes is known as well: the
files with a change in the report hold their revised documents, and all others what they held.
-/

namespace WorkItems

namespace PlanStep

variable {dryRun : Bool} {root : Path} {d last : Disk}

/-- Steps that can be carried out one after the other, from one disk to another. -/
inductive CarriesOut (dryRun : Bool) (root : Path) : List PlanStep → Disk → Disk → Prop where
  | nil (d : Disk) : CarriesOut dryRun root [] d d
  | cons {step : PlanStep} {steps : List PlanStep} {d next last : Disk} :
      step.carryOut dryRun d root = .ok next → CarriesOut dryRun root steps next last →
        CarriesOut dryRun root (step :: steps) d last

/-- Every step of a dry run can be carried out, and leaves the disk alone. -/
theorem carriesOut_dry (root : Path) (steps : List PlanStep) (d : Disk) :
    CarriesOut true root steps d d := by
  induction steps with
  | nil => exact .nil d
  | cons step steps ih =>
      refine .cons ?_ ih
      rw [carryOut]
      split <;> rfl

end PlanStep

/-! ## Runs whose steps can be carried out -/

namespace Repair

open PlanStep (CarriesOut)

variable {s : Schema} {today : Date} {dryRun : Bool} {root : Path}

/-- The steps for files are the one for the first file, if it has one, and those for the others. -/
theorem steps_cons_eq_ok {f : ItemFile} {fs : List ItemFile} {plan : List PlanStep}
    (h : steps s today (f :: fs) = .ok plan) :
    ∃ step rest, stepFor s today f = .ok step ∧ steps s today fs = .ok rest ∧
      plan = step.toList ++ rest := by
  rw [steps] at h
  cases hstep : stepFor s today f with
  | error e =>
      rw [hstep] at h
      cases h
  | ok step =>
      simp only [hstep] at h
      cases hrest : steps s today fs with
      | error e =>
          rw [hrest] at h
          cases h
      | ok rest =>
          rw [hrest] at h
          exact ⟨step, rest, rfl, rfl, (Except.ok.inj h).symm⟩

/-- A run reports its steps and ends at the disk behind them, if they can be carried out. -/
theorem runFiles_of_carriesOut {files : List ItemFile} {plan : List PlanStep} {d last : Disk}
    (hplan : steps s today files = .ok plan) (h : CarriesOut dryRun root plan d last) :
    runFiles s today dryRun root files d = (.ok (PlanStep.reportOf plan).entries, last) := by
  induction files generalizing plan d with
  | nil =>
      cases hplan
      cases h
      rfl
  | cons f fs ih =>
      obtain ⟨step, rest, hstep, hrest, rfl⟩ := steps_cons_eq_ok hplan
      rw [runFiles, hstep]
      cases step with
      | none => exact ih hrest h
      | some step =>
          cases h with
          | cons hdone h =>
              simp only [hdone, PlanStep.diskBehind, PlanStep.entries, ih hrest h]
              rfl

end Repair

namespace Numbering

open PlanStep (CarriesOut)

variable {s : Schema} {dryRun : Bool} {root : Path}

theorem runFiles_of_carriesOut {files : List ItemFile} {ids : Ids} {d last : Disk}
    (h : CarriesOut dryRun root ((planFrom s ids files).filterMap id) d last) :
    runFiles s dryRun root ids files d =
      ((PlanStep.reportOf ((planFrom s ids files).filterMap id)).entries, last) := by
  induction files generalizing ids d with
  | nil =>
      cases h
      rfl
  | cons f fs ih =>
      rw [planFrom_cons] at h ⊢
      rw [runFiles]
      cases hstep : (ids.settle s f).1.step? s f.path with
      | none =>
          simp only [hstep, List.filterMap_cons_none, id_eq] at h ⊢
          exact ih h
      | some step =>
          rw [hstep, List.filterMap_cons_some (f := id) rfl] at h
          rw [List.filterMap_cons_some (f := id) rfl]
          cases h with
          | cons hdone h =>
              simp only [hstep, hdone, PlanStep.diskBehind, PlanStep.entries, Except.isOk,
                Except.toBool, if_true, ih h]
              rfl

end Numbering

/-! ## Steps for the files of a project -/

/-- What a repair writes for a document, with these notes about it. -/
def Repair.Revises (s : Schema) (today : Date) (_ : List Note) (old new : Document) : Prop :=
  ∃ changes, Repair.repairDocument s today old = (new, .ok changes)

/-- What a renumbering writes for a document, with these notes about it. -/
def Numbering.Revises (notes : List Note) (old new : Document) : Prop :=
  ∃ id, .change (.fixed "id" old.item.id id) ∈ notes ∧ new = Numbering.withId old id

namespace PlanStep

variable {Revises : List Note → Document → Document → Prop}

/--
A step for a file: it reports no change, or has a document for the file that revises the old one.
-/
inductive IsFor (Revises : List Note → Document → Document → Prop) (f : ItemFile) :
    PlanStep → Prop where
  | report {notes : List Note} : (∀ c, .change c ∉ notes) → IsFor Revises f ⟨f.path, notes, none⟩
  | revise {notes : List Note} {old new : Document} {c : Change} : f.document = .ok old →
      .change c ∈ notes → Revises notes old new → IsFor Revises f ⟨f.path, notes, some new⟩

/-- Steps for files in order, with at most one for each. -/
inductive AreFor (Revises : List Note → Document → Document → Prop) :
    List ItemFile → List PlanStep → Prop where
  | nil : AreFor Revises [] []
  | pass {f : ItemFile} {fs : List ItemFile} {steps : List PlanStep} :
      AreFor Revises fs steps → AreFor Revises (f :: fs) steps
  | take {f : ItemFile} {fs : List ItemFile} {step : PlanStep} {steps : List PlanStep} :
      step.IsFor Revises f → AreFor Revises fs steps → AreFor Revises (f :: fs) (step :: steps)

theorem IsFor.path {f : ItemFile} {step : PlanStep} (h : step.IsFor Revises f) :
    step.path = f.path := by
  cases h <;> rfl

theorem IsFor.report_one {f : ItemFile} {note : Note} (h : ∀ c, note ≠ .change c) :
    (PlanStep.report f.path note).IsFor Revises f := by
  refine .report fun c hc => ?_
  exact h c (List.mem_singleton.1 hc).symm

theorem AreFor.isFor {files : List ItemFile} {steps : List PlanStep}
    (h : AreFor Revises files steps) : ∀ step ∈ steps, ∃ f ∈ files, step.IsFor Revises f := by
  induction h with
  | nil => exact fun _ hstep => nomatch hstep
  | pass _ ih =>
      exact fun step hstep => (ih step hstep).imp fun f hf => ⟨List.mem_cons_of_mem _ hf.1, hf.2⟩
  | take hf _ ih =>
      intro step hstep
      rcases List.mem_cons.1 hstep with rfl | hstep
      · exact ⟨_, List.mem_cons_self .., hf⟩
      · exact (ih step hstep).imp fun f hf => ⟨List.mem_cons_of_mem _ hf.1, hf.2⟩

theorem AreFor.sublist_paths {files : List ItemFile} {steps : List PlanStep}
    (h : AreFor Revises files steps) : (steps.map (·.path)).Sublist (files.map (·.path)) := by
  induction h with
  | nil => exact List.Sublist.slnil
  | pass _ ih => exact ih.cons _
  | take hf _ ih =>
      rw [List.map_cons, List.map_cons, hf.path]
      exact ih.cons_cons _

end PlanStep

namespace Repair

variable {s : Schema} {today : Date}

theorem isFor_of_stepFor {f : ItemFile} {step : PlanStep}
    (h : stepFor s today f = .ok (some step)) : step.IsFor (Revises s today) f := by
  rw [stepFor] at h
  split at h
  · cases h
    exact .report_one fun c hc => by cases hc
  · rename_i old hold
    split at h
    · cases h
    · cases h
    · rename_i new changes hne hrepair
      cases h
      cases changes with
      | nil => exact absurd rfl hne
      | cons c changes =>
          exact .revise hold (List.mem_map_of_mem (List.mem_cons_self ..)) ⟨_, hrepair⟩

theorem areFor_steps {files : List ItemFile} {plan : List PlanStep}
    (h : steps s today files = .ok plan) : PlanStep.AreFor (Revises s today) files plan := by
  induction files generalizing plan with
  | nil =>
      cases h
      exact .nil
  | cons f fs ih =>
      obtain ⟨step, rest, hstep, hrest, rfl⟩ := steps_cons_eq_ok h
      cases step with
      | none => exact .pass (ih hrest)
      | some step => exact .take (isFor_of_stepFor hstep) (ih hrest)

end Repair

namespace Numbering

theorem isFor_of_settle {s : Schema} {ids : Ids} {f : ItemFile} {step : PlanStep}
    (h : (ids.settle s f).1.step? s f.path = some step) : step.IsFor Revises f := by
  rw [Ids.settle] at h
  split at h
  · cases h
    exact .report_one fun c hc => by cases hc
  · rename_i old hold
    split at h
    · cases h
    · split at h
      · cases h
      · split at h
        · cases h
          exact .report_one fun c hc => by cases hc
        · rename_i new _
          cases h
          exact .revise hold (List.mem_singleton.2 rfl) ⟨new, List.mem_singleton.2 rfl, rfl⟩

theorem areFor_planFrom (s : Schema) (ids : Ids) (files : List ItemFile) :
    PlanStep.AreFor Revises files ((planFrom s ids files).filterMap id) := by
  induction files generalizing ids with
  | nil => exact .nil
  | cons f fs ih =>
      rw [planFrom_cons]
      cases hstep : (ids.settle s f).1.step? s f.path with
      | none =>
          rw [List.filterMap_cons_none (f := id) rfl]
          exact .pass (ih _)
      | some step =>
          rw [List.filterMap_cons_some (f := id) rfl]
          exact .take (isFor_of_settle hstep) (ih _)

end Numbering

/-! ## Runs that write -/

/-- A report tells of a change to a file. -/
def Report.TellsChange (r : Report) (path : Path) : Prop := ∃ c, ⟨path, .change c⟩ ∈ r.entries

/--
`after` is `before` with a new text for exactly those of the files of which the report tells a
change, each time a revised document. All else is as it was.
-/
def Rewrites (Revised : ItemFile → Document → Prop) (files : List ItemFile) (r : Report)
    (before after : Disk) : Prop :=
  ∃ new, after = before.rewriteFiles new ∧
    (∀ f ∈ files, ∃ place, before.locate f.path = .ok place ∧
      (∃ c, before.tree.find? place = some (.file c)) ∧
      (r.TellsChange f.path → ∃ doc, Revised f doc ∧ new place = some doc.render) ∧
      (¬r.TellsChange f.path → new place = none)) ∧
    ∀ place, (∀ f ∈ files, before.locate f.path ≠ .ok place) → new place = none

namespace PlanStep

open Disk (overwrite)

variable {Revises : List Note → Document → Document → Prop} {d : Disk} {root : Path}
  {top : Location}

/--
On a disk as there are some, steps about files below the root can all be carried out. Behind them a
file for which there is a document holds it, and no other place has a new text.
-/
theorem carriesOut_of_sound (hd : d.IsSound) (htop : d.locate root = .ok top)
    {steps : List PlanStep} (hsteps : ∀ step ∈ steps, ∃ place, d.LeadsToFile top step.path place)
    (hnodup : (steps.map fun step => d.locate step.path).Nodup) (new : Location → Option String) :
    ∃ new', CarriesOut false root steps (d.rewriteFiles new) (d.rewriteFiles new') ∧
      (∀ place, (∀ step ∈ steps, step.document.isSome → d.locate step.path ≠ .ok place) →
        new' place = new place) ∧
      ∀ step ∈ steps, ∀ doc, step.document = some doc → ∀ place, d.locate step.path = .ok place →
        new' place = some doc.render := by
  induction steps generalizing new with
  | nil => exact ⟨new, .nil _, fun _ _ => rfl, fun _ hstep => nomatch hstep⟩
  | cons step steps ih =>
      obtain ⟨place, hplace⟩ := hsteps step (List.mem_cons_self ..)
      obtain ⟨hother, hnodup⟩ := List.pairwise_cons.1 hnodup
      have hrest : ∀ step ∈ steps, ∃ place, d.LeadsToFile top step.path place :=
        fun step hstep => hsteps step (List.mem_cons_of_mem _ hstep)
      cases hdoc : step.document with
      | none =>
          obtain ⟨new', hcarry, hkeep, hwrite⟩ := ih hrest hnodup new
          refine ⟨new', .cons (by rw [carryOut, hdoc]) hcarry, fun p hp => ?_, ?_⟩
          · exact hkeep p fun step hstep => hp step (List.mem_cons_of_mem _ hstep)
          · intro later hmem doc hlater
            rcases List.mem_cons.1 hmem with rfl | hmem
            · rw [hdoc] at hlater
              cases hlater
            · exact hwrite later hmem doc hlater
      | some doc =>
          obtain ⟨new', hcarry, hkeep, hwrite⟩ := ih hrest hnodup (overwrite new place doc.render)
          have hdone : step.carryOut false (d.rewriteFiles new) root =
              .ok (d.rewriteFiles (overwrite new place doc.render)) := by
            rw [carryOut, hdoc]
            exact Document.write_rewriteFiles hd htop hplace doc
          refine ⟨new', .cons hdone hcarry, fun p hp => ?_, ?_⟩
          · have hne : p ≠ place := by
              rintro rfl
              exact hp step (List.mem_cons_self ..) (by rw [hdoc]; rfl) hplace.1
            rw [hkeep p fun step hstep => hp step (List.mem_cons_of_mem _ hstep), overwrite,
              if_neg hne]
          · intro later hmem doc' hdoc' p hp
            rcases List.mem_cons.1 hmem with rfl | hmem
            · obtain rfl := Option.some.inj (hdoc.symm.trans hdoc')
              obtain rfl := Except.ok.inj (hplace.1.symm.trans hp)
              rw [hkeep, overwrite, if_pos rfl]
              intro step hstep _ heq
              exact hother _ (List.mem_map_of_mem hstep) (hp.trans heq.symm)
            · exact hwrite later hmem doc' hdoc' p hp

theorem tellsChange_reportOf {steps : List PlanStep} {path : Path} :
    (reportOf steps).TellsChange path ↔
      ∃ step ∈ steps, step.path = path ∧ ∃ c, .change c ∈ step.notes := by
  constructor
  · rintro ⟨c, hc⟩
    obtain ⟨step, hstep, hmem⟩ := List.mem_flatMap.1 hc
    obtain ⟨note, hnote, heq⟩ := List.mem_map.1 hmem
    cases heq
    exact ⟨step, hstep, rfl, c, hnote⟩
  · rintro ⟨step, hstep, rfl, c, hc⟩
    exact ⟨c, List.mem_flatMap.2 ⟨step, hstep, List.mem_map_of_mem hc⟩⟩

end PlanStep

/-! ## The files of a project -/

/-- Files that were read from a disk, each at its own place below `top`. -/
structure ReadFrom (d : Disk) (top : Location) (files : List ItemFile) : Prop where
  leads : ∀ f ∈ files, ∃ place, d.LeadsToFile top f.path place
  distinct : ∀ f ∈ files, ∀ g ∈ files, d.locate f.path = d.locate g.path → f = g
  nodup : (files.map fun f => d.locate f.path).Nodup

theorem ItemFile.path_read (d : Disk) (p : Path) : (ItemFile.read d p).path = p := by
  rw [ItemFile.read]
  split <;> rfl

theorem readFrom_items {d : Disk} (hd : d.IsSound) {root : Path} {files : List ItemFile}
    (h : d.items root = .ok files) : ∃ top, d.locate root = .ok top ∧ ReadFrom d top files := by
  rw [Disk.items] at h
  split at h
  · cases h
  · rename_i paths hpaths
    obtain rfl : paths.map (ItemFile.read d) = files := Except.ok.inj h
    obtain ⟨top, htop, hleads, hnodup⟩ := Disk.discover_spec hd hpaths
    refine ⟨top, htop, fun f hf => ?_, fun f hf g hg heq => ?_, ?_⟩
    · obtain ⟨p, hp, rfl⟩ := List.mem_map.1 hf
      rw [ItemFile.path_read]
      exact hleads p hp
    · obtain ⟨p, hp, rfl⟩ := List.mem_map.1 hf
      obtain ⟨q, hq, rfl⟩ := List.mem_map.1 hg
      rw [ItemFile.path_read, ItemFile.path_read] at heq
      rw [List.inj_on_of_nodup_map hnodup hp hq heq]
    · rw [List.map_map]
      refine (congrArg List.Nodup (List.map_congr_left fun p _ => ?_)).mpr hnodup
      rw [Function.comp_apply, ItemFile.path_read]

namespace PlanStep

variable {Revises : List Note → Document → Document → Prop} {d : Disk} {root : Path}
  {top : Location}

/-- Steps for the work items of a project can be carried out, and rewrite what the report tells. -/
theorem rewrites_of_areFor (hd : d.IsSound) (htop : d.locate root = .ok top)
    {files : List ItemFile} (hfiles : ReadFrom d top files) {steps : List PlanStep}
    (hsteps : AreFor Revises files steps) :
    ∃ last, CarriesOut false root steps d last ∧
      Rewrites (fun f doc => ∃ old notes, f.document = .ok old ∧ Revises notes old doc ∧
          ∀ note ∈ notes, ⟨f.path, note⟩ ∈ (reportOf steps).entries)
        files (reportOf steps) d last := by
  have hleads : ∀ step ∈ steps, ∃ place, d.LeadsToFile top step.path place := by
    intro step hstep
    obtain ⟨f, hf, hfor⟩ := hsteps.isFor step hstep
    exact hfor.path ▸ hfiles.leads f hf
  have hnodup : (steps.map fun step => d.locate step.path).Nodup := by
    have hsub := hsteps.sublist_paths.map d.locate
    rw [List.map_map, List.map_map] at hsub
    exact hfiles.nodup.sublist hsub
  have hown : ∀ f ∈ files, ∀ step ∈ steps, d.locate step.path = d.locate f.path →
      step.IsFor Revises f := by
    intro f hf step hstep heq
    obtain ⟨g, hg, hfor⟩ := hsteps.isFor step hstep
    rw [hfor.path] at heq
    exact hfiles.distinct g hg f hf heq ▸ hfor
  obtain ⟨new, hcarry, hkeep, hwrite⟩ := carriesOut_of_sound hd htop hleads hnodup fun _ => none
  have hstart : d.rewriteFiles (fun _ => none) = d := by
    rw [Disk.rewriteFiles, FileTree.rewrite_none]
  rw [hstart] at hcarry
  refine ⟨_, hcarry, new, rfl, fun f hf => ?_, fun place hplace => ?_⟩
  · obtain ⟨place, hplace, -, hfile⟩ := hfiles.leads f hf
    refine ⟨place, hplace, hfile, fun htells => ?_, fun hsilent => ?_⟩
    · obtain ⟨step, hstep, hpath, c, hc⟩ := tellsChange_reportOf.1 htells
      cases hown f hf step hstep (congrArg _ hpath) with
      | report hnone => exact absurd hc (hnone c)
      | @revise notes old doc _ hold _ hrevises =>
          refine ⟨doc, ⟨old, notes, hold, hrevises, fun note hnote => ?_⟩,
            hwrite _ hstep doc rfl place hplace⟩
          exact List.mem_flatMap.2 ⟨_, hstep, List.mem_map_of_mem hnote⟩
    · refine hkeep place fun step hstep hsome heq => ?_
      cases hown f hf step hstep (heq.trans hplace.symm) with
      | report _ => cases hsome
      | @revise _ _ _ c _ hc _ => exact hsilent (tellsChange_reportOf.2 ⟨_, hstep, rfl, c, hc⟩)
  · refine hkeep place fun step hstep _ heq => ?_
    obtain ⟨f, hf, hfor⟩ := hsteps.isFor step hstep
    exact hplace f hf (hfor.path ▸ heq)

end PlanStep

theorem Rewrites.mono {Revised Revised' : ItemFile → Document → Prop} {files : List ItemFile}
    {r : Report} {before after : Disk} (h : Rewrites Revised files r before after)
    (himp : ∀ f doc, Revised f doc → Revised' f doc) : Rewrites Revised' files r before after := by
  obtain ⟨new, hafter, hfiles, hothers⟩ := h
  refine ⟨new, hafter, fun f hf => ?_, hothers⟩
  obtain ⟨place, hplace, hfile, htells, hsilent⟩ := hfiles f hf
  refine ⟨place, hplace, hfile, fun h => ?_, hsilent⟩
  obtain ⟨doc, hdoc, hnew⟩ := htells h
  exact ⟨doc, himp f doc hdoc, hnew⟩

namespace Repair

variable {s : Schema} {today : Date} {d : Disk} {root : Path}

/-- A run over files whose defaults have been checked has a plan. -/
theorem steps_ok (h : s.checkDefaults today = .ok ()) (files : List ItemFile) :
    ∃ plan, steps s today files = .ok plan := by
  induction files with
  | nil => exact ⟨[], rfl⟩
  | cons f fs ih =>
      obtain ⟨step, hstep⟩ := stepFor_ok h f
      obtain ⟨rest, hrest⟩ := ih
      exact ⟨step.toList ++ rest, by rw [steps, hstep, hrest]; rfl⟩

theorem run_of_carriesOut (h : s.checkDefaults today = .ok ()) {files : List ItemFile}
    (hfiles : d.items root = .ok files) {plan : List PlanStep}
    (hplan : steps s today files = .ok plan)
    {dryRun : Bool} {last : Disk} (hcarry : PlanStep.CarriesOut dryRun root plan d last) :
    run s today dryRun d root = (.ok (PlanStep.reportOf plan), last) := by
  simp only [run, h, hfiles, runFiles_of_carriesOut hplan hcarry]
  rfl

/-- What a run that writes does with each file: it gets the repaired document. -/
def Repaired (s : Schema) (today : Date) (f : ItemFile) (doc : Document) : Prop :=
  ∃ old changes, f.document = .ok old ∧ repairDocument s today old = (doc, .ok changes)

/-- A dry run of repairs tells what a run that writes does. -/
theorem run_dry (s : Schema) (today : Date) (hd : d.IsSound) (root : Path) :
    (run s today true d root).1 = (run s today false d root).1 ∧ (run s today true d root).2 = d ∧
      ∀ report, (run s today false d root).1 = .ok report → ∃ files, d.items root = .ok files ∧
        Rewrites (Repaired s today) files report d (run s today false d root).2 := by
  cases hcheck : s.checkDefaults today with
  | error e =>
      simp only [run, hcheck]
      refine ⟨trivial, trivial, fun report h => ?_⟩
      cases h
  | ok _ =>
      cases hitems : d.items root with
      | error e =>
          simp only [run, hcheck, hitems]
          refine ⟨trivial, trivial, fun report h => ?_⟩
          cases h
      | ok files =>
          obtain ⟨plan, hplan⟩ := steps_ok hcheck files
          obtain ⟨top, htop, hread⟩ := readFrom_items hd hitems
          obtain ⟨last, hcarry, hrewrites⟩ :=
            PlanStep.rewrites_of_areFor hd htop hread (areFor_steps hplan)
          rw [run_of_carriesOut hcheck hitems hplan (PlanStep.carriesOut_dry root plan d),
            run_of_carriesOut hcheck hitems hplan hcarry]
          refine ⟨rfl, rfl, fun report h => ⟨files, rfl, ?_⟩⟩
          obtain rfl := Except.ok.inj h
          refine hrewrites.mono fun f doc hdoc => ?_
          obtain ⟨old, notes, hold, ⟨changes, hrepair⟩, -⟩ := hdoc
          exact ⟨old, changes, hold, hrepair⟩

end Repair

namespace Numbering

variable {s : Schema} {d : Disk} {root : Path}

theorem run_of_carriesOut {files : List ItemFile} (hfiles : d.items root = .ok files)
    {dryRun : Bool} {last : Disk}
    (hcarry : PlanStep.CarriesOut dryRun root (steps s files) d last) :
    run s dryRun d root = (.ok (PlanStep.reportOf (steps s files)), last) := by
  rw [steps_eq_filterMap_plan, plan] at hcarry ⊢
  simp only [run, hfiles, runFiles_of_carriesOut hcarry]

/--
What a run that writes does with each file: it gets its document with the id that is reported.
-/
def Renumbered (r : Report) (f : ItemFile) (doc : Document) : Prop :=
  ∃ old id, f.document = .ok old ∧ ⟨f.path, .change (.fixed "id" old.item.id id)⟩ ∈ r.entries ∧
    doc = withId old id

/-- A dry run of new ids tells what a run that writes does. -/
theorem run_dry (s : Schema) (hd : d.IsSound) (root : Path) :
    (run s true d root).1 = (run s false d root).1 ∧ (run s true d root).2 = d ∧
      ∀ report, (run s false d root).1 = .ok report → ∃ files, d.items root = .ok files ∧
        Rewrites (Renumbered report) files report d (run s false d root).2 := by
  cases hitems : d.items root with
  | error e =>
      simp only [run, hitems]
      refine ⟨trivial, trivial, fun report h => ?_⟩
      cases h
  | ok files =>
      obtain ⟨top, htop, hread⟩ := readFrom_items hd hitems
      have hplan : PlanStep.AreFor Revises files (steps s files) := by
        rw [steps_eq_filterMap_plan]
        exact areFor_planFrom s _ files
      obtain ⟨last, hcarry, hrewrites⟩ := PlanStep.rewrites_of_areFor hd htop hread hplan
      rw [run_of_carriesOut hitems (PlanStep.carriesOut_dry root _ d),
        run_of_carriesOut hitems hcarry]
      refine ⟨rfl, rfl, fun report h => ⟨files, rfl, ?_⟩⟩
      obtain rfl := Except.ok.inj h
      refine hrewrites.mono fun f doc hdoc => ?_
      obtain ⟨old, notes, hold, ⟨id, hmem, rfl⟩, hnotes⟩ := hdoc
      exact ⟨old, id, hold, hnotes _ hmem, rfl⟩

end Numbering

/--
On every disk as there are some, a dry run gives the result of the run that writes and leaves the
disk alone, and the run that writes leaves exactly what its report tells: the files with a change
hold their repaired or renumbered documents, and all else is as it was, all of it after a failure.
-/
theorem dry_run_tells_run (s : Schema) (today : Date) (d : Disk) (root : Path) (hd : d.IsSound) :
    ((Repair.run s today true d root).1 = (Repair.run s today false d root).1 ∧
      (Repair.run s today true d root).2 = d ∧
      match (Repair.run s today false d root).1 with
      | .ok report => ∃ files, d.items root = .ok files ∧
          Rewrites (Repair.Repaired s today) files report d (Repair.run s today false d root).2
      | .error _ => (Repair.run s today false d root).2 = d) ∧
    ((Numbering.run s true d root).1 = (Numbering.run s false d root).1 ∧
      (Numbering.run s true d root).2 = d ∧
      match (Numbering.run s false d root).1 with
      | .ok report => ∃ files, d.items root = .ok files ∧
          Rewrites (Numbering.Renumbered report) files report d (Numbering.run s false d root).2
      | .error _ => (Numbering.run s false d root).2 = d) := by
  obtain ⟨hrepair, hrepairDry, hrepaired⟩ := Repair.run_dry s today hd root
  obtain ⟨hnumber, hnumberDry, hrenumbered⟩ := Numbering.run_dry s hd root
  refine ⟨⟨hrepair, hrepairDry, ?_⟩, hnumber, hnumberDry, ?_⟩
  · split
    · exact hrepaired _ ‹_›
    · exact Repair.disk_of_run_error ‹_›
  · split
    · exact hrenumbered _ ‹_›
    · exact Numbering.disk_of_run_error ‹_›

/-- A disk with one work item, whose date of creation is not in the standard format. -/
def Disk.oldDate : Disk :=
  ⟨.directory [("1.md", .file (.text
    "---\nid: 1\ntitle: T\nstatus: todo\nkind: task\ncreated: 2024/01/02\n---\n"))], []⟩

theorem Disk.isSound_oldDate : Disk.oldDate.IsSound where
  top := rfl
  tree := ⟨List.pairwise_singleton .., by decide, trivial, trivial⟩

/-- The run that writes restates the date, and the dry run tells it and leaves the file alone. -/
theorem dry_run_tells_run_oldDate :
    (Repair.run default DateFormat.january true .oldDate ⟨"."⟩).1 =
        (Repair.run default DateFormat.january false .oldDate ⟨"."⟩).1 ∧
      (Repair.run default DateFormat.january true .oldDate ⟨"."⟩).2 = .oldDate ∧
      (Repair.run default DateFormat.january false .oldDate ⟨"."⟩).2.readText ⟨"1.md"⟩ =
        .ok "---\nid: 1\ntitle: T\nstatus: todo\nkind: task\ncreated: 2024-01-02\n---\n" :=
  have h := dry_run_tells_run default DateFormat.january .oldDate ⟨"."⟩ Disk.isSound_oldDate
  ⟨h.1.1, h.1.2.1, by decide +kernel⟩

end WorkItems
