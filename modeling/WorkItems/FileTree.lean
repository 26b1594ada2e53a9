import WorkItems.Dict
/-!
# File trees

A `FileTree` is a file, or a directory with named entries in the order of their names. A `Location`
leads down from the top of a tree by names alone, so different locations are different places.

What lies at a location is `find?`; `put` changes what is found at its own location and below, and
nothing else.
-/

namespace WorkItems

/-- What a file holds. -/
inductive Content where
  | text (s : String)
  /-- Bytes that are no text in UTF-8. -/
  | binary (bytes : List UInt8)
deriving DecidableEq, Repr, Inhabited

/-- The names that lead to a place from the top. -/
abbrev Location := List String

inductive FileTree where
  | file (content : Content)
  | directory (entries : List (String × FileTree))
deriving Inhabited

namespace FileTree

def isDirectory : FileTree → Bool
  | directory _ => true
  | file _ => false

/-- What lies at a location. -/
def find? : Location → FileTree → Option FileTree
  | [], t => some t
  | _ :: _, file _ => none
  | name :: rest, directory es => (Entries.find? name es).bind (find? rest)

/-- Whether a directory lies at a location. -/
def hasDirectory (t : FileTree) (place : Location) : Bool := (t.find? place).any isDirectory

/--
Puts something at a location, in place of what is there. Directories that are missing on the way are
made; there is no way through a file.
-/
def put : FileTree → Location → FileTree → FileTree
  | _, [], new => new
  | file c, _ :: _, _ => file c
  | directory es, name :: rest, new =>
    let inner := (Entries.find? name es).getD (directory [])
    directory (Entries.insert name (inner.put rest new) es)

/-- Removes what lies at a location, unless that is the top. -/
def remove : Location → FileTree → FileTree
  | _ :: _, file c => file c
  | [], t => t
  | [name], directory es => directory (es.filter (·.1 ≠ name))
  | name :: rest, directory es =>
    match Entries.find? name es with
    | some t => directory (Entries.insert name (remove rest t) es)
    | none => directory es

/-! ## Listing -/

mutual

/-- Everything in a tree that lies at `place`, and the content of the files. -/
def listing (place : Location) : FileTree → List (Location × Option Content)
  | file c => [(place, some c)]
  | directory es => (place, none) :: listingOf place es

def listingOf (place : Location) : List (String × FileTree) → List (Location × Option Content)
  | [] => []
  | (name, t) :: es => listing (place ++ [name]) t ++ listingOf place es

end

/-- The locations of all files below the top, in the order of their names. -/
def files (t : FileTree) : List Location :=
  ((t.listing []).filter (·.2.isSome)).map (·.1)

/-! ## Comparing -/

/-- What became of a place. -/
inductive Difference where
  | made
  | written (content : Content)
  | removed
deriving DecidableEq, Repr

/-- How a listed place is shown: a directory ends with a slash. -/
def shown (place : Location) (content : Option Content) : String :=
  String.intercalate "/" place ++ if content.isNone then "/" else ""

/-- Everything below the top under the path that shows it. -/
def index (t : FileTree) : Dict (Option Content) :=
  .ofList (((t.listing []).filter (!·.1.isEmpty)).map fun (place, c) => (shown place c, c))

/-- What became of a place that was listed as `old`, if anything. -/
def changeOf? (old : Option (Option Content)) (new : Option Content) : Option Difference :=
  match old, new with
  | none, none => some .made
  | none, some c => some (.written c)
  | some o, some c => if o = some c then none else some (.written c)
  | some _, none => none

/-- What became of the places below the top, in the order of their paths. -/
def differences (old new : FileTree) : Dict Difference :=
  let before := old.index
  let after := new.index
  .ofList ((before.keys.filter (!after.contains ·)).map (·, .removed) ++
    after.entries.filterMap fun (path, c) =>
      (changeOf? (before.find? path) c).map (path, ·))

end FileTree
end WorkItems
