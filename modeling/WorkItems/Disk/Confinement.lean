import WorkItems.Disk
import WorkItems.Run.Error
/-!
# Staying inside of a project

`Disk.locateWithin` finds the place that a path leads to and refuses one outside of the root,
whatever way the path takes. The last name of the path need not be there yet.
-/

namespace WorkItems.Disk

/-- The place that a path leads to. A name at its end that is missing is taken as it is. -/
def locateNew (d : Disk) (p : Path) : Except RunError Location :=
  if d.leadsSomewhere p then (d.locate p).mapError .file
  else match p.parent?, p.fileName? with
    | some directory, some name => ((d.locate directory).map (· ++ [name])).mapError .file
    | _, _ => .error (.outsideRoot p)

/-- The place that a path leads to, if that is the root or lies below it. -/
def locateWithin (d : Disk) (root p : Path) : Except RunError Location := do
  let top ← (d.locate root).mapError RunError.file
  let place ← d.locateNew p
  if top.isPrefixOf place then .ok place else .error (.outsideRoot p)

end WorkItems.Disk
