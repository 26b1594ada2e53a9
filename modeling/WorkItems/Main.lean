import WorkItems.CommandLine
/-!
# The program

Reads the part of the disk that a command line can be about, carries the command out on that, and
writes what has changed. Links are not followed.
-/

namespace WorkItems.Program

/-- The variable of the environment that names the usual root. -/
def rootVariable : String := "DOCKET_ROOT"

/-- The first day of the clock. -/
def clockStart : Date := (Date.ofYmd? 1970 1 1).get rfl

def secondsPerDay : Nat := 86400

/-- The current date, which the system notes on a new file. -/
def today : IO Date := do
  let (_, path) ← IO.FS.createTempFile
  let seconds := (← path.metadata).modified.sec.toNat
  IO.FS.removeFile path
  pure ((clockStart.after? (seconds / secondsPerDay)).getD clockStart)

/-- The names that lead to an absolute path. -/
def placeOf (path : String) : Location :=
  ((Text.pieces '/' path.toList).filter (!·.isEmpty)).map String.ofList

def contentOf (bytes : ByteArray) : Content :=
  match String.fromUTF8? bytes with
  | some s => .text s
  | none => .binary bytes.toList

/-- Reads a file, or a directory with everything in it. -/
partial def load (path : String) : IO FileTree := do
  let place := (← IO.currentDir) / path
  if ← place.isDir then
    let mut entries : Entries FileTree := []
    for e in ← place.readDir do
      if (← e.path.symlinkMetadata).type != .symlink then
        entries := Entries.insert e.fileName (← load e.path.toString) entries
    pure (.directory entries)
  else
    pure (.file (contentOf (← IO.FS.readBinFile place)))

/-- Adds what lies on the way to a path, without the files in the directories. -/
def addWay (d : Disk) (path : Path) : IO Disk := do
  let mut d := d
  for p in path.ancestors.reverse do
    let place := (← IO.currentDir) / p.text
    if ← place.pathExists then
      let location := placeOf (← IO.FS.realPath place).toString
      if (d.tree.find? location).isNone then
        let isDirectory ← place.isDir
        d := d.put location (if isDirectory then .directory [] else .file (.text ""))
  pure d

/-- Adds everything below a path. -/
def addAll (d : Disk) (path : Path) : IO Disk := do
  let place := (← IO.currentDir) / path.text
  if ← place.pathExists then
    let full := (← IO.FS.realPath place).toString
    pure (d.put (placeOf full) (← load full))
  else pure d

/-- Reads what a command can be about: the project, and the folders of its statuses. -/
def readDisk (invocation : CommandLine.Invocation) : IO Disk := do
  let here := (← IO.currentDir).toString
  let mut d : Disk := ⟨.directory [], placeOf here⟩
  for p in (Path.mk here).ancestors do
    d ← addWay d (p.join Project.directoryName)
    d ← addWay d (p.join CommandLine.repositoryMarker)
  let root := (invocation.root.map Path.mk).getD (CommandLine.rootAround d)
  d ← addWay d root
  d ← addAll d root
  if let .ok config := Config.load d root then
    for folder in config.statusFolders.values do
      d ← addWay d (root.join folder)
  pure d

def bytesOf : Content → ByteArray
  | .text s => s.toUTF8
  | .binary bytes => ⟨bytes.toArray⟩

/-- Replaces a file in one go: it is written beside its place and then moved there. -/
def replaceFile (path : String) (content : Content) : IO Unit := do
  let beside := path ++ ".new"
  IO.FS.writeBinFile beside (bytesOf content)
  IO.FS.rename beside path

/-- Writes what has become of one place. -/
def apply (path : String) : FileTree.Difference → IO Unit
  | .made => IO.FS.createDirAll path
  | .written content => replaceFile path content
  | .removed => IO.FS.removeFile path

/-- Carries out a command line. -/
def run (arguments : List String) : IO UInt32 := do
  let usualRoot ← IO.getEnv rootVariable
  let disk ← match CommandLine.Invocation.ofArguments usualRoot arguments with
    | .ok invocation => readDisk invocation
    | .error _ => pure ⟨.directory [], []⟩
  let outcome := CommandLine.run (← today) usualRoot arguments disk
  for (path, difference) in (disk.tree.differences outcome.disk.tree).entries do
    apply ("/" ++ path) difference
  IO.print outcome.output
  if let some complaint := outcome.complaint then IO.eprintln complaint
  pure outcome.code

end WorkItems.Program

def main (arguments : List String) : IO UInt32 := WorkItems.Program.run arguments
