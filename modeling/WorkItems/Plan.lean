import WorkItems.Audit
import WorkItems.Numbering
/-!
# Plans of runs

A run that changes files reads all of them first and then decides about each: a `PlanStep` says what
is reported about a file, and what document it gets, if it gets one. The steps for all files are
the plan of a run in which every step succeeds.
-/

namespace WorkItems

structure PlanStep where
  path : Path
  notes : List Note
  /-- The new document of the file. -/
  document : Option Document

namespace PlanStep

/-- A step that only reports. -/
def report (path : Path) (note : Note) : PlanStep := ⟨path, [note], none⟩

/-- What the steps report when all of them succeed. -/
def reportOf (steps : List PlanStep) : Report :=
  ⟨steps.flatMap fun step => Report.about step.path step.notes⟩

end PlanStep

/-! ## Repairs -/

namespace Repair

/-- The step for one file. One that needs no repair has none. -/
def stepFor (s : Schema) (today : Date) (f : ItemFile) : Except ConfigError (Option PlanStep) :=
  match f.document with
  | .error e => .ok (some (.report f.path (.unread e)))
  | .ok d =>
    match repairDocument s today d with
    | (_, .error e) => .error e
    | (_, .ok []) => .ok none
    | (repaired, .ok changes) => .ok (some ⟨f.path, changes.map .change, some repaired⟩)

def steps (s : Schema) (today : Date) : List ItemFile → Except ConfigError (List PlanStep)
  | [] => .ok []
  | f :: fs =>
    match stepFor s today f with
    | .error e => .error e
    | .ok step => (steps s today fs).map (step.toList ++ ·)

end Repair

/-! ## Ids that are shared -/

namespace Numbering

/-- What happens to the id of a file. -/
inductive Outcome where
  | unread (cause : ReadError)
  /-- The id is blank, or no earlier file has it. -/
  | kept
  | renumbered (document : Document) (new : String)
  | stuck (id : String)

/-- The step that goes with an outcome. -/
def Outcome.step? (s : Schema) (path : Path) : Outcome → Option PlanStep
  | unread cause => some (.report path (.unread cause))
  | kept => none
  | renumbered d new =>
    some ⟨path, [.change (.fixed "id" d.item.id new)],
      some { d with item := { d.item with id := new } }⟩
  | stuck id => some (.report path (.noFreeId id s.idFormat))

/-- What a run knows about ids when it comes to a file. -/
structure Ids where
  /-- All ids that a new one must differ from. -/
  used : List String
  /-- The ids of earlier files. -/
  owned : List String

/-- What happens to the id of a file, and what the run knows after it. -/
def Ids.settle (s : Schema) (ids : Ids) (f : ItemFile) : Outcome × Ids :=
  match f.document with
  | .error e => (.unread e, ids)
  | .ok d =>
    match f.id? with
    | none => (.kept, ids)
    | some id =>
      if !ids.owned.contains id then (.kept, { ids with owned := id :: ids.owned })
      else match next? s ids.used with
        | none => (.stuck id, ids)
        | some new => (.renumbered d new, { ids with used := new :: ids.used })

/-- The outcomes for files in order. -/
def outcomes (s : Schema) (ids : Ids) : List ItemFile → List (Path × Outcome)
  | [] => []
  | f :: fs =>
    let settled := ids.settle s f
    (f.path, settled.1) :: outcomes s settled.2 fs

def steps (s : Schema) (files : List ItemFile) : List PlanStep :=
  (outcomes s ⟨files.filterMap ItemFile.id?, []⟩ files).filterMap fun (path, o) => o.step? s path

end Numbering
end WorkItems
