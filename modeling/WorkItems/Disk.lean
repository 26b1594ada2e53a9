import WorkItems.FileTree
import WorkItems.FileTree.Error
import WorkItems.Path
import WorkItems.Text.Pieces
/-!
# Disks

A `Disk` is a tree of files and the directory from which relative paths lead. `locate` follows a
path piece by piece: every piece but the first needs a directory before it, `..` leads up, and a
name leads down to an entry that must be there. There are no links, so a place has one location.
-/

namespace WorkItems

structure Disk where
  tree : FileTree
  /-- The current directory. -/
  here : Location
deriving Inhabited

namespace Disk

/-- The greatest number of bytes in a name. -/
def nameLimit : Nat := 255

/-- Where a piece of a path leads from a place. -/
def step (d : Disk) (place : Location) (piece : List Char) : Except FileError Location :=
  if !d.tree.hasDirectory place then .error .notDirectory
  else if piece = [] ∨ piece = ['.'] then .ok place
  else if piece = ['.', '.'] then .ok place.dropLast
  else
    let name := String.ofList piece
    if nameLimit < name.utf8ByteSize then .error .nameTooLong
    else if (d.tree.find? (place ++ [name])).isSome then .ok (place ++ [name])
    else .error .notFound

def walk (d : Disk) (place : Location) : List (List Char) → Except FileError Location
  | [] => .ok place
  | piece :: rest =>
    match d.step place piece with
    | .ok next => walk d next rest
    | .error e => .error e

/-- Where a path starts. -/
def start (d : Disk) (p : Path) : Location := if p.isAbsolute then [] else d.here

/-- The pieces of a path that can name something. -/
def piecesOf (p : Path) : Except FileError (List (List Char)) :=
  let cs := p.text.toList
  if cs.contains '\x00' then .error .zeroInName
  else if cs.isEmpty then .error .notFound
  else .ok (Text.pieces '/' cs)

/-- The place that a path leads to. -/
def locate (d : Disk) (p : Path) : Except FileError Location :=
  match piecesOf p with
  | .ok pieces => d.walk (d.start p) pieces
  | .error e => .error e

/-- Whether a path leads somewhere. -/
def leadsSomewhere (d : Disk) (p : Path) : Bool := (d.locate p).isOk

def isDirectory (d : Disk) (p : Path) : Bool :=
  match d.locate p with
  | .ok place => d.tree.hasDirectory place
  | .error _ => false

/-- What lies where a path leads. -/
def get (d : Disk) (p : Path) : Except FileError FileTree :=
  match d.locate p with
  | .ok place => (d.tree.find? place).elim (.error .notFound) .ok
  | .error e => .error e

def readText (d : Disk) (p : Path) : Except FileError String :=
  match d.get p with
  | .ok (.file (.text s)) => .ok s
  | .ok (.file (.binary _)) => .error .notText
  | .ok (.directory _) => .error .isDirectory
  | .error e => .error e

/-! ## Changing -/

/-- Puts something at a place. -/
def put (d : Disk) (place : Location) (new : FileTree) : Disk :=
  { d with tree := d.tree.put place new }

/-- Makes the directory that a path names. All but its last piece must lead to a directory. -/
def makeDirectory (d : Disk) (p : Path) : Except FileError Disk :=
  match piecesOf p with
  | .error e => .error e
  | .ok pieces =>
    match pieces.reverse.dropWhile (·.isEmpty) with
    | [] => .error .alreadyExists
    | last :: before =>
      match d.walk (d.start p) before.reverse with
      | .error e => .error e
      | .ok place =>
        match d.step place last with
        | .ok _ => .error .alreadyExists
        | .error .notFound => .ok (d.put (place ++ [String.ofList last]) (.directory []))
        | .error e => .error e

/--
Makes the first of some directories. The others hold it one in the other, and are made if need be.
-/
def makeFirst : List Path → Disk → Except FileError Unit × Disk
  | [], d => (.error .notFound, d)
  | p :: holders, d =>
    if p.text.isEmpty then (.ok (), d)
    else match d.makeDirectory p with
      | .ok made => (.ok (), made)
      | .error .notFound =>
        match makeFirst holders d with
        | (.error e, d) => (.error e, d)
        | (.ok (), d) => again p d
      | .error e => if d.isDirectory p then (.ok (), d) else (.error e, d)
where
  /-- The second attempt, once the directory around it is there. -/
  again (p : Path) (d : Disk) : Except FileError Unit × Disk :=
    match d.makeDirectory p with
    | .ok made => (.ok (), made)
    | .error e => if d.isDirectory p then (.ok (), d) else (.error e, d)

/--
Makes a directory and those that have to be made for it. One that is there is fine. What was made
before an error stays.
-/
def makeDirectories (d : Disk) (p : Path) : Except FileError Unit × Disk := makeFirst p.ancestors d

/-- Writes a file in one go: either its place holds the text afterwards, or nothing has changed. -/
def writeText (d : Disk) (place : Location) (text : String) : Except FileError Disk :=
  if !d.tree.hasDirectory place.dropLast then .error .notDirectory
  else if d.tree.hasDirectory place then .error .isDirectory
  else .ok (d.put place (.file (.text text)))

end Disk
end WorkItems
