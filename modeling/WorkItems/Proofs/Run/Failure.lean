import WorkItems.Proofs.Repair.Defaults
import WorkItems.Run
/-!
# Runs that fail

A run of repairs writes one file after the other, so a failure half way would leave some files
repaired and others not. It cannot happen: all that can go wrong with a default is found before
the first file is read, and after that a file that cannot be read or written is reported and passed
over. A run can only fail while nothing has been written yet.
-/

namespace WorkItems

namespace Repair

variable {s : Schema} {today : Date}

/-- With defaults that have been checked, no file stops a run. -/
theorem stepFor_ok (h : s.checkDefaults today = .ok ()) (f : ItemFile) :
    ∃ step, stepFor s today f = .ok step := by
  rw [stepFor]
  split
  · exact ⟨_, rfl⟩
  · rename_i doc _
    obtain ⟨repaired, changes, hrepair⟩ := repairDocument_ok h doc
    rw [hrepair]
    cases changes with
    | nil => exact ⟨none, rfl⟩
    | cons change changes => exact ⟨_, rfl⟩

/-- A run over files whose defaults have been checked comes to its end. -/
theorem runFiles_ok (h : s.checkDefaults today = .ok ()) (dryRun : Bool) (root : Path)
    (files : List ItemFile) (d : Disk) :
    ∃ entries, (runFiles s today dryRun root files d).1 = .ok entries := by
  induction files generalizing d with
  | nil => exact ⟨[], rfl⟩
  | cons f fs ih =>
      obtain ⟨step, hstep⟩ := stepFor_ok h f
      rw [runFiles, hstep]
      cases step with
      | none => exact ih d
      | some step =>
          obtain ⟨rest, hrest⟩ := ih (PlanStep.diskBehind d (step.carryOut dryRun d root))
          exact ⟨step.entries (step.carryOut dryRun d root) ++ rest, by simp only [hrest]; rfl⟩

/-- A run that has found its defaults and its files in order gives a report. -/
theorem run_ok (h : s.checkDefaults today = .ok ()) (dryRun : Bool) {d : Disk} {root : Path}
    {files : List ItemFile} (hfiles : d.items root = .ok files) :
    ∃ report, (run s today dryRun d root).1 = .ok report := by
  obtain ⟨entries, hentries⟩ := runFiles_ok h dryRun root files d
  exact ⟨⟨entries⟩, by simp only [run, h, hfiles, hentries]; rfl⟩

theorem disk_of_run_error {dryRun : Bool} {d : Disk} {root : Path} {e : RunError}
    (h : (run s today dryRun d root).1 = .error e) : (run s today dryRun d root).2 = d := by
  cases hcheck : s.checkDefaults today with
  | error fault => simp only [run, hcheck]
  | ok _ =>
      cases hfiles : d.items root with
      | error fault => simp only [run, hcheck, hfiles]
      | ok files =>
          obtain ⟨report, hreport⟩ := run_ok hcheck dryRun hfiles
          rw [hreport] at h
          cases h

end Repair

namespace Numbering

theorem disk_of_run_error {s : Schema} {dryRun : Bool} {d : Disk} {root : Path} {e : RunError}
    (h : (run s dryRun d root).1 = .error e) : (run s dryRun d root).2 = d := by
  cases hfiles : d.items root with
  | error fault => simp only [run, hfiles]
  | ok files =>
      simp only [run, hfiles] at h
      cases h

end Numbering

/--
A run that fails has changed nothing, and only what comes before the first file can make a run of
repairs fail: once the defaults of the schema are known to be good, every document can be repaired.
-/
theorem failed_run_changes_nothing (s : Schema) (today : Date) (dryRun : Bool) (d : Disk)
    (root : Path) :
    (∀ e, (Repair.run s today dryRun d root).1 = .error e →
        (Repair.run s today dryRun d root).2 = d) ∧
      (∀ e, (Numbering.run s dryRun d root).1 = .error e →
        (Numbering.run s dryRun d root).2 = d) ∧
      (s.checkDefaults today = .ok () → ∀ doc, ∃ repaired changes,
        Repair.repairDocument s today doc = (repaired, .ok changes)) ∧
      (s.checkDefaults today = .ok () → ∀ files, d.items root = .ok files →
        ∃ report, (Repair.run s today dryRun d root).1 = .ok report) :=
  ⟨fun _ => Repair.disk_of_run_error, fun _ => Numbering.disk_of_run_error,
    Repair.repairDocument_ok, fun h _ => Repair.run_ok h dryRun⟩

/-- A schema in which the default of a number is a truth value. -/
def Schema.mistyped : Schema :=
  { (default : Schema) with
    fields := ⟨[("size", ⟨"size", { fieldType := .number, default := some (.bool true) }, none,
      DateFormat.standard, none, none⟩)], List.pairwise_singleton ..⟩ }

/-- A disk with one file, which is not yet a work item. -/
def Disk.single : Disk := ⟨.directory [("1.md", .file (.text "text"))], []⟩

/-- A default of the wrong type stops a run, and a schema without defaults stops none. -/
theorem failed_run_changes_nothing_single :
    (Repair.run .mistyped DateFormat.january false .single ⟨"."⟩).1 =
        .error (.config (.badDefault "size" (.notNumber "boolean"))) ∧
      (Repair.run .mistyped DateFormat.january false .single ⟨"."⟩).2 = .single ∧
      (Schema.checkDefaults default DateFormat.january = .ok ()) ∧
      ∃ repaired changes, Repair.repairDocument default DateFormat.january default =
        (repaired, .ok changes) :=
  have hfails : (Repair.run .mistyped DateFormat.january false .single ⟨"."⟩).1 =
      .error (.config (.badDefault "size" (.notNumber "boolean"))) := rfl
  have hgood : Schema.checkDefaults default DateFormat.january = .ok () := rfl
  ⟨hfails, (failed_run_changes_nothing .mistyped DateFormat.january false .single ⟨"."⟩).1 _ hfails,
    hgood,
    (failed_run_changes_nothing default DateFormat.january false .single ⟨"."⟩).2.2.1 hgood default⟩

end WorkItems
