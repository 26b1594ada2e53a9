import WorkItems.Proofs.FrontMatter.Delimiters
import WorkItems.Proofs.Run.DryRun
/-!
# What a run leaves alone

A run that writes makes and removes nothing, and the only files that hold something else behind it
are the work items with a change in its report; those keep their body. No information passes from
one file to another in a run of repairs: what it reports about a file, and what it leaves there,
follows from what the file held, from the schema and from the day.
-/

namespace WorkItems

/-- Two texts are documents with the same body. -/
def SameBody (old new : String) : Prop :=
  ∃ block block' body, FrontMatter.split old = .ok (block, body) ∧
    FrontMatter.split new = .ok (block', body)

/--
What a run does to a disk, by what it reports about the work items below `root`, which are at
`paths`.
-/
structure ChangesOnlyTold (root : Path) (paths : List Path) (r : Report) (before after : Disk) :
    Prop where
  here : after.here = before.here
  /-- Nothing is made and nothing removed. -/
  places : ∀ place, (after.tree.find? place).map FileTree.isDirectory =
    (before.tree.find? place).map FileTree.isDirectory
  /-- A file that is no work item holds what it held. -/
  others : ∀ place c, before.tree.find? place = some (.file c) →
    (∀ p ∈ paths, before.locate p ≠ .ok place) → after.tree.find? place = some (.file c)
  /--
  In particular a file below the root that its names exclude, and any file outside of the root.
  -/
  excluded : ∀ top, before.locate root = .ok top → before.tree.hasDirectory top = true →
    ∀ place c, before.tree.find? place = some (.file c) →
      (∀ rest, place = top ++ rest → isWorkItemAt rest = false) →
        after.tree.find? place = some (.file c)
  /-- So does a work item without a change in the report. -/
  silent : ∀ p ∈ paths, ¬r.TellsChange p → after.get p = before.get p
  /-- A work item with a change is a document that has the body it had. -/
  told : ∀ p ∈ paths, r.TellsChange p → ∃ old new, before.get p = .ok (.file (.text old)) ∧
    after.get p = .ok (.file (.text new)) ∧ SameBody old new

/-! ## Files and what was read from them -/

namespace ItemFile

variable {d d' : Disk} {p : Path}

/-- What is read from a file follows from what lies where its path leads. -/
theorem read_congr (h : d'.get p = d.get p) : ItemFile.read d' p = ItemFile.read d p := by
  simp only [ItemFile.read, Disk.readText, h]

/-- A document was read from a text, and has the body behind the front matter of that text. -/
theorem text_of_read {doc : Document} (h : (ItemFile.read d p).document = .ok doc) :
    ∃ raw block, d.get p = .ok (.file (.text raw)) ∧
      FrontMatter.split raw = .ok (block, doc.body) := by
  rw [ItemFile.read, Disk.readText] at h
  split at h
  · rename_i raw hraw
    split at hraw
    · rename_i text hget
      cases hraw
      rw [ofText, Document.ofText] at h
      cases hsplit : FrontMatter.split raw with
      | error e =>
          rw [hsplit] at h
          cases h
      | ok parts =>
          obtain ⟨block, body⟩ := parts
          rw [hsplit] at h
          simp only [bind, Except.bind] at h
          cases hitem : FrontMatter.readItem block with
          | error e =>
              rw [hitem] at h
              cases h
          | ok item =>
              rw [hitem] at h
              cases h
              exact ⟨raw, block, hget, hsplit⟩
    · cases hraw
    · cases hraw
    · cases hraw
  · cases h

end ItemFile

/-! ## What becomes of each file -/

theorem Rewrites.find?_other {Revised : ItemFile → Document → Prop} {files : List ItemFile}
    {r : Report}
    {before after : Disk} (h : Rewrites Revised files r before after) {place : Location}
    {c : Content} (hc : before.tree.find? place = some (.file c))
    (hnone : ∀ f ∈ files, before.locate f.path ≠ .ok place) :
    after.tree.find? place = some (.file c) := by
  obtain ⟨new, rfl, -, hothers⟩ := h
  rw [Disk.find?_rewriteFiles hc, hothers place hnone]
  rfl

/--
A run that rewrites what it tells, each file to a document with the body it had, does nothing else.
-/
theorem Rewrites.changesOnlyTold {Revised : ItemFile → Document → Prop} {root : Path}
    {paths : List Path} {r : Report} {before after : Disk} (hbefore : before.IsSound)
    (hpaths : before.discover root = .ok paths)
    (h : Rewrites Revised (paths.map (ItemFile.read before)) r before after)
    (hbody : ∀ f doc, Revised f doc → ∃ old, f.document = .ok old ∧ doc.body = old.body) :
    ChangesOnlyTold root paths r before after := by
  have hothers : ∀ place c, before.tree.find? place = some (.file c) →
      (∀ p ∈ paths, before.locate p ≠ .ok place) → after.tree.find? place = some (.file c) := by
    intro place c hc hnone
    refine h.find?_other hc fun f hf => ?_
    obtain ⟨p, hp, rfl⟩ := List.mem_map.1 hf
    rw [ItemFile.path_read]
    exact hnone p hp
  obtain ⟨new, rfl, hfiles, -⟩ := h
  have hitem : ∀ p ∈ paths, ∃ place, before.locate p = .ok place ∧
      (∃ c, before.tree.find? place = some (.file c)) ∧
      (r.TellsChange p → ∃ doc, Revised (ItemFile.read before p) doc ∧
        new place = some doc.render) ∧
      (¬r.TellsChange p → new place = none) := by
    intro p hp
    have hfile := hfiles _ (List.mem_map_of_mem hp)
    rwa [ItemFile.path_read] at hfile
  exact {
    here := rfl
    places := by
      intro place
      rw [Disk.rewriteFiles, FileTree.find?_rewrite, Option.map_map]
      exact congrArg (Option.map · _) (funext fun t => FileTree.isDirectory_rewrite _ t)
    others := hothers
    excluded := by
      intro top htop hdir place c hc hplace
      refine hothers place c hc fun p hp heq => ?_
      obtain ⟨rest, rfl, hrest⟩ := Disk.place_of_discover hbefore hpaths htop hdir hp heq
      exact Bool.false_ne_true ((hplace rest rfl).symm.trans hrest)
    silent := by
      intro p hp hsilent
      obtain ⟨place, hplace, ⟨c, hc⟩, -, hnew⟩ := hitem p hp
      rw [Disk.get_rewriteFiles hplace hc, hnew hsilent]
      exact (Disk.get_eq_ok.2 ⟨place, hplace, hc⟩).symm
    told := by
      intro p hp htells
      obtain ⟨place, hplace, ⟨c, hc⟩, hnew, -⟩ := hitem p hp
      obtain ⟨doc, hrevised, hdoc⟩ := hnew htells
      obtain ⟨old, hold, hsame⟩ := hbody _ doc hrevised
      obtain ⟨raw, block, hraw, hsplit⟩ := ItemFile.text_of_read hold
      refine ⟨raw, doc.render, hraw, ?_, block, FrontMatter.block doc.item, old.body, hsplit, ?_⟩
      · rw [Disk.get_rewriteFiles hplace hc, hdoc]
        rfl
      · rw [← hsame]
        exact FrontMatter.split_render doc.item doc.body }

/-! ## The entries about one file -/

namespace Report

theorem forPath_append (es fs : List ReportEntry) (p : Path) :
    (Report.mk (es ++ fs)).forPath p = (Report.mk es).forPath p ++ (Report.mk fs).forPath p :=
  List.filter_append ..

/-- The entries about a file, if each file has its own entries and no two files have one path. -/
theorem forPath_flatMap {tell : ItemFile → List ReportEntry}
    (htell : ∀ f, ∀ e ∈ tell f, e.path = f.path) {files : List ItemFile}
    (hnodup : (files.map (·.path.components)).Nodup) {f : ItemFile} (hf : f ∈ files) :
    (Report.mk (files.flatMap tell)).forPath f.path = tell f := by
  have hnone : ∀ gs : List ItemFile, f.path.components ∉ gs.map (·.path.components) →
      (Report.mk (gs.flatMap tell)).forPath f.path = [] := by
    intro gs hgs
    rw [forPath, List.filter_eq_nil_iff]
    intro e he heq
    obtain ⟨g, hg, he⟩ := List.mem_flatMap.1 he
    rw [htell g e he] at heq
    exact hgs (List.mem_map.2 ⟨g, hg, beq_iff_eq.1 heq⟩)
  have hall : (Report.mk (tell f)).forPath f.path = tell f := by
    rw [forPath, List.filter_eq_self]
    intro e he
    rw [htell f e he]
    exact beq_self_eq_true f.path.components
  induction files with
  | nil => cases hf
  | cons g fs ih =>
      obtain ⟨hhead, hnodup⟩ := List.nodup_cons.1 hnodup
      rw [List.flatMap_cons, forPath_append]
      rcases List.mem_cons.1 hf with rfl | hf
      · rw [hall, hnone fs hhead, List.append_nil]
      · have hother : f.path.components ∉ [g].map (·.path.components) := by
          intro hmem
          have heq := List.mem_singleton.1 hmem
          exact hhead (heq ▸ List.mem_map_of_mem hf)
        have hg := hnone [g] hother
        rw [List.flatMap_singleton] at hg
        rw [hg, List.nil_append]
        exact ih hnodup hf

theorem tellsChange_iff_forPath {r : Report} {p : Path} :
    r.TellsChange p ↔ ∃ c, ⟨p, .change c⟩ ∈ r.forPath p := by
  constructor
  · rintro ⟨c, hc⟩
    exact ⟨c, List.mem_filter.2 ⟨hc, beq_self_eq_true p.components⟩⟩
  · rintro ⟨c, hc⟩
    exact ⟨c, (List.mem_filter.1 hc).1⟩

end Report

/-! ## Runs of repairs -/

namespace Repair

variable {s : Schema} {today : Date} {d d' : Disk} {root : Path}

/-- What a run of repairs reports about one file. -/
def told (s : Schema) (today : Date) (f : ItemFile) : List ReportEntry :=
  match stepFor s today f with
  | .ok (some step) => Report.about step.path step.notes
  | _ => []

theorem path_of_mem_told (s : Schema) (today : Date) (f : ItemFile) :
    ∀ e ∈ told s today f, e.path = f.path := by
  intro e he
  rw [told] at he
  split at he
  · rename_i step hstep
    obtain ⟨note, -, rfl⟩ := List.mem_map.1 he
    exact (isFor_of_stepFor hstep).path
  · cases he

theorem entries_reportOf_steps {files : List ItemFile} {plan : List PlanStep}
    (h : steps s today files = .ok plan) :
    (PlanStep.reportOf plan).entries = files.flatMap (told s today) := by
  induction files generalizing plan with
  | nil =>
      cases h
      rfl
  | cons f fs ih =>
      obtain ⟨step, rest, hstep, hrest, rfl⟩ := steps_cons_eq_ok h
      rw [List.flatMap_cons, ← ih hrest, told, hstep]
      cases step with
      | none => rfl
      | some step => rfl

/-- A run of repairs reports about one work item after the other. -/
theorem entries_of_run (hd : d.IsSound) {report : Report} {after : Disk}
    (h : run s today false d root = (.ok report, after)) :
    ∃ paths, d.discover root = .ok paths ∧
      report.entries = (paths.map (ItemFile.read d)).flatMap (told s today) ∧
      Rewrites (Repaired s today) (paths.map (ItemFile.read d)) report d after := by
  have hreport : (run s today false d root).1 = .ok report := congrArg Prod.fst h
  have hafter : (run s today false d root).2 = after := congrArg Prod.snd h
  obtain ⟨hsame, -, hrewrites⟩ := run_dry s today hd root
  obtain ⟨files, hfiles, hrewrites⟩ := hrewrites report hreport
  obtain ⟨paths, hpaths, rfl⟩ := Disk.items_eq_ok hfiles
  refine ⟨paths, hpaths, ?_, hafter ▸ hrewrites⟩
  cases hcheck : s.checkDefaults today with
  | error e =>
      rw [run, hcheck] at hreport
      cases hreport
  | ok _ =>
      obtain ⟨plan, hplan⟩ := steps_ok hcheck (paths.map (ItemFile.read d))
      have hdry := hsame.trans hreport
      rw [run_of_carriesOut hcheck hfiles hplan (PlanStep.carriesOut_dry root plan d)] at hdry
      rw [← Except.ok.inj hdry]
      exact entries_reportOf_steps hplan

theorem exists_run (h : s.checkDefaults today = .ok ()) {paths : List Path}
    (hpaths : d.discover root = .ok paths) :
    ∃ report after, run s today false d root = (.ok report, after) := by
  have hfiles : d.items root = .ok (paths.map (ItemFile.read d)) := by rw [Disk.items, hpaths]
  obtain ⟨report, hreport⟩ := run_ok h false hfiles
  exact ⟨report, _, Prod.ext hreport rfl⟩

/-- What a run reports about a work item. -/
theorem forPath_of_run (hd : d.IsSound) {report : Report} {paths : List Path}
    (hpaths : d.discover root = .ok paths)
    (hentries : report.entries = (paths.map (ItemFile.read d)).flatMap (told s today)) {p : Path}
    (hp : p ∈ paths) : report.forPath p = told s today (ItemFile.read d p) := by
  have hnodup : ((paths.map (ItemFile.read d)).map (·.path.components)).Nodup := by
    rw [List.map_map]
    refine (congrArg List.Nodup (List.map_congr_left fun q _ => ?_)).mpr
      (Disk.nodup_components hd hpaths)
    rw [Function.comp_apply, ItemFile.path_read]
  have h := Report.forPath_flatMap (path_of_mem_told s today) hnodup
    (List.mem_map_of_mem (f := ItemFile.read d) hp)
  rw [ItemFile.path_read, ← hentries] at h
  exact h

theorem Repaired.unique {f : ItemFile} {doc doc' : Document} (h : Repaired s today f doc)
    (h' : Repaired s today f doc') : doc = doc' := by
  obtain ⟨old, changes, hold, hdoc⟩ := h
  obtain ⟨old', changes', hold', hdoc'⟩ := h'
  obtain rfl := Except.ok.inj (hold.symm.trans hold')
  exact congrArg Prod.fst (hdoc.symm.trans hdoc')

/-- Two runs treat a work item alike that holds the same in both disks. -/
theorem run_local (hd : d.IsSound) (hd' : d'.IsSound) {report report' : Report}
    {after after' : Disk} (h : run s today false d root = (.ok report, after))
    (h' : run s today false d' root = (.ok report', after')) {paths : List Path}
    (hpaths : d.discover root = .ok paths) {p : Path} (hp : p ∈ paths) (hget : d'.get p = d.get p) :
    (∃ paths', d'.discover root = .ok paths' ∧ p ∈ paths') ∧
      report'.forPath p = report.forPath p ∧ after'.get p = after.get p := by
  obtain ⟨_, hpaths₁, hentries, new, rfl, hfiles, -⟩ := entries_of_run hd h
  obtain rfl := Except.ok.inj (hpaths.symm.trans hpaths₁)
  obtain ⟨paths', hpaths', hentries', new', rfl, hfiles', -⟩ := entries_of_run hd' h'
  have hp' : p ∈ paths' := Disk.mem_discover_of_get_eq hd hd' hpaths hpaths' hp hget
  have hread : ItemFile.read d' p = ItemFile.read d p := ItemFile.read_congr hget
  have htold : report'.forPath p = report.forPath p := by
    rw [forPath_of_run hd hpaths hentries hp, forPath_of_run hd' hpaths' hentries' hp', hread]
  have htells : report'.TellsChange p ↔ report.TellsChange p := by
    rw [Report.tellsChange_iff_forPath, Report.tellsChange_iff_forPath, htold]
  refine ⟨⟨paths', hpaths', hp'⟩, htold, ?_⟩
  obtain ⟨place, hplace, ⟨c, hc⟩, hchanged, hkept⟩ := hfiles _ (List.mem_map_of_mem hp)
  obtain ⟨place', hplace', ⟨c', hc'⟩, hchanged', hkept'⟩ := hfiles' _ (List.mem_map_of_mem hp')
  rw [ItemFile.path_read] at hplace hchanged hkept hplace' hchanged' hkept'
  have hcontent : c' = c := by
    rw [Disk.get_eq_ok.2 ⟨place, hplace, hc⟩, Disk.get_eq_ok.2 ⟨place', hplace', hc'⟩] at hget
    exact FileTree.file.inj (Except.ok.inj hget)
  have hnew : new' place' = new place := by
    by_cases hchange : report.TellsChange p
    · obtain ⟨doc, hdoc, hnew⟩ := hchanged hchange
      obtain ⟨doc', hdoc', hnew'⟩ := hchanged' (htells.2 hchange)
      rw [hread] at hdoc'
      rw [hnew, hnew', hdoc'.unique hdoc]
    · rw [hkept hchange, hkept' fun hchange' => hchange (htells.1 hchange')]
  rw [Disk.get_rewriteFiles hplace hc, Disk.get_rewriteFiles hplace' hc', hnew, hcontent]

end Repair

/-! ## Runs that write -/

/-- A repaired document has the body it had. -/
theorem Repair.Repaired.body {s : Schema} {today : Date} {f : ItemFile} {doc : Document}
    (h : Repaired s today f doc) : ∃ old, f.document = .ok old ∧ doc.body = old.body := by
  obtain ⟨old, changes, hold, hdoc⟩ := h
  exact ⟨old, hold, congrArg (·.1.body) hdoc.symm⟩

/-- So has a renumbered one. -/
theorem Numbering.Renumbered.body {r : Report} {f : ItemFile} {doc : Document}
    (h : Renumbered r f doc) : ∃ old, f.document = .ok old ∧ doc.body = old.body := by
  obtain ⟨old, id, hold, -, rfl⟩ := h
  exact ⟨old, hold, rfl⟩

/--
A run that writes changes only what it tells. A run of repairs moreover tells about a file, and
leaves in it, what follows from that file alone: two disks that agree on a work item agree on both
behind their runs.
-/
theorem run_changes_only_told (s : Schema) (today : Date) (d : Disk) (root : Path)
    (hd : d.IsSound) :
    (∀ report after, Repair.run s today false d root = (.ok report, after) →
      ∃ paths, d.discover root = .ok paths ∧ ChangesOnlyTold root paths report d after ∧
        ∀ d' report' after', d'.IsSound → Repair.run s today false d' root = (.ok report', after') →
          ∀ p ∈ paths, d'.get p = d.get p →
            (∃ paths', d'.discover root = .ok paths' ∧ p ∈ paths') ∧
              report'.forPath p = report.forPath p ∧ after'.get p = after.get p) ∧
    ∀ report after, Numbering.run s false d root = (.ok report, after) →
      ∃ paths, d.discover root = .ok paths ∧ ChangesOnlyTold root paths report d after := by
  constructor
  · intro report after h
    obtain ⟨paths, hpaths, -, hrewrites⟩ := Repair.entries_of_run hd h
    refine ⟨paths, hpaths, hrewrites.changesOnlyTold hd hpaths fun _ _ => Repair.Repaired.body, ?_⟩
    intro d' report' after' hd' h' p hp hget
    exact Repair.run_local hd hd' h h' hpaths hp hget
  · intro report after h
    obtain ⟨files, hfiles, hrewrites⟩ :=
      (Numbering.run_dry s hd root).2.2 report (congrArg Prod.fst h)
    obtain ⟨paths, hpaths, rfl⟩ := Disk.items_eq_ok hfiles
    rw [congrArg Prod.snd h] at hrewrites
    exact ⟨paths, hpaths,
      hrewrites.changesOnlyTold hd hpaths fun _ _ => Numbering.Renumbered.body⟩

/-- The text of a work item whose date of creation is not in the standard format. -/
def Disk.slashedText : String :=
  "---\nid: 1\ntitle: T\nstatus: todo\nkind: task\ncreated: 2024/01/02\n---\nbody\n"

/-- A disk with that work item and the same text as a scratch file. -/
def Disk.withIdeas : Disk :=
  ⟨.directory [("1.md", .file (.text Disk.slashedText)),
    ("IDEAS.md", .file (.text Disk.slashedText))], []⟩

/-- A disk with that work item and another file in front of it. -/
def Disk.withNeighbour : Disk :=
  ⟨.directory [("0.md", .file (.text "none")), ("1.md", .file (.text Disk.slashedText))], []⟩

theorem Disk.isSound_withIdeas : Disk.withIdeas.IsSound where
  top := rfl
  tree := ⟨List.pairwise_pair.2 (by decide), by decide, trivial, by decide, trivial, trivial⟩

theorem Disk.isSound_withNeighbour : Disk.withNeighbour.IsSound where
  top := rfl
  tree := ⟨List.pairwise_pair.2 (by decide), by decide, trivial, by decide, trivial, trivial⟩

/-- The scratch file stays as it is, and the other file makes no difference for the work item. -/
theorem run_changes_only_told_withIdeas :
    ∃ report after report' after',
      Repair.run default DateFormat.january false .withIdeas ⟨"."⟩ = (.ok report, after) ∧
      Repair.run default DateFormat.january false .withNeighbour ⟨"."⟩ = (.ok report', after') ∧
      after.tree.find? ["IDEAS.md"] = some (.file (.text Disk.slashedText)) ∧
      after.readText ⟨"1.md"⟩ =
        .ok "---\nid: 1\ntitle: T\nstatus: todo\nkind: task\ncreated: 2024-01-02\n---\nbody\n" ∧
      report'.forPath ⟨"./1.md"⟩ = report.forPath ⟨"./1.md"⟩ ∧
      after'.get ⟨"./1.md"⟩ = after.get ⟨"./1.md"⟩ := by
  have hideas : Disk.withIdeas.discover ⟨"."⟩ = .ok [⟨"./1.md"⟩] := rfl
  have hneighbour : Disk.withNeighbour.discover ⟨"."⟩ = .ok [⟨"./0.md"⟩, ⟨"./1.md"⟩] := rfl
  have hchecked : Schema.checkDefaults default DateFormat.january = .ok () := rfl
  obtain ⟨report, after, hrun⟩ := Repair.exists_run hchecked hideas
  obtain ⟨report', after', hrun'⟩ := Repair.exists_run hchecked hneighbour
  obtain ⟨paths, hpaths, honly, hlocal⟩ :=
    (run_changes_only_told default DateFormat.january .withIdeas ⟨"."⟩ Disk.isSound_withIdeas).1
      report after hrun
  obtain rfl := Except.ok.inj (hideas.symm.trans hpaths)
  obtain ⟨-, hentries, hcontent⟩ := hlocal .withNeighbour report' after'
    Disk.isSound_withNeighbour hrun' ⟨"./1.md"⟩ (List.mem_singleton.2 rfl) rfl
  have hscratch : after.tree.find? ["IDEAS.md"] = some (.file (.text Disk.slashedText)) := by
    refine honly.excluded [] rfl rfl _ _ rfl ?_
    rintro rest rfl
    decide
  have hread : (Repair.run default DateFormat.january false .withIdeas ⟨"."⟩).2.readText ⟨"1.md"⟩ =
      .ok "---\nid: 1\ntitle: T\nstatus: todo\nkind: task\ncreated: 2024-01-02\n---\nbody\n" := by
    decide +kernel
  rw [hrun] at hread
  exact ⟨report, after, report', after', hrun, hrun', hscratch, hread, hentries, hcontent⟩

end WorkItems
