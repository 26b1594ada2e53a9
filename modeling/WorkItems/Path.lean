/-!
# Paths

A `Path` is the text that names a file, kept as it was given, because messages show it so. Paths are
compared by their *components*: repeated slashes, a slash at the end and inner `.` do not count, so
that `a//b/.` and `a/b` are the same path.
-/

namespace WorkItems

/-- A step of a path. -/
inductive Component where
  /-- The slash at the start of an absolute path. -/
  | root
  /-- A dot at the start of a relative path. -/
  | current
  | parent
  | name (n : String)
deriving DecidableEq, Repr, Inhabited

namespace Component

/-- The rank of a kind of component. -/
def rank : Component → Nat
  | root => 0
  | current => 1
  | parent => 2
  | name _ => 3

/-- Components are ordered by kind, and names by their characters. -/
def lt (a b : Component) : Bool :=
  match a, b with
  | name m, name n => m < n
  | _, _ => a.rank < b.rank

end Component

structure Path where
  text : String
deriving Inhabited, Repr

namespace Path

/-! ## Components -/

/-- The component that a piece between slashes is, if it is one. -/
def ofPiece? (piece : List Char) : Option Component :=
  if piece.isEmpty || piece == ['.'] then none
  else if piece == ['.', '.'] then some .parent
  else some (.name (String.ofList piece))

/--
The components of a text that does not start a path, each with the text behind it. `piece` is what
has been read since the last slash, the last character first.
-/
def innerSteps (piece : List Char) : List Char → List (Component × List Char)
  | [] => (ofPiece? piece.reverse).toList.map (·, [])
  | c :: cs =>
    if c == '/' then (ofPiece? piece.reverse).toList.map (·, c :: cs) ++ innerSteps [] cs
    else innerSteps (c :: piece) cs

/-- The components of a path, each with the text behind it. -/
def steps (cs : List Char) : List (Component × List Char) :=
  match cs with
  | '/' :: rest => (.root, rest) :: innerSteps [] rest
  | ['.'] => [(.current, [])]
  | '.' :: '/' :: rest => (.current, '/' :: rest) :: innerSteps [] ('/' :: rest)
  | cs => innerSteps [] cs

def components (p : Path) : List Component := (steps p.text.toList).map (·.1)

/-- Paths are equal when their components are. -/
protected def beq (p q : Path) : Bool := p.components == q.components

instance : BEq Path := ⟨Path.beq⟩

/-- Lexicographic order of lists of components. -/
def componentsLt : List Component → List Component → Bool
  | _, [] => false
  | [], _ :: _ => true
  | a :: as, b :: bs => a.lt b || (a == b && componentsLt as bs)

def lt (p q : Path) : Bool := componentsLt p.components q.components

def isAbsolute (p : Path) : Bool := p.text.toList.head? == some '/'

/-! ## Building and taking apart -/

/-- A path below this one; an absolute one replaces it. -/
def join (p : Path) (child : String) : Path :=
  if child.toList.head? == some '/' then ⟨child⟩
  else if p.text.isEmpty || p.text.toList.getLast? == some '/' then ⟨p.text ++ child⟩
  else ⟨p.text ++ "/" ++ child⟩

/-- Drops the slashes and dots that name no component at the start of a text. -/
def trimStart (piece : List Char) : List Char → List Char
  | [] => if (ofPiece? piece.reverse).isSome then piece.reverse else []
  | c :: cs =>
    if c == '/' then
      if (ofPiece? piece.reverse).isSome then piece.reverse ++ c :: cs else trimStart [] cs
    else trimStart (c :: piece) cs

/-- Drops the slashes and dots that name no component at the end of a text. -/
def trimEnd (cs : List Char) : List Char := (trimStart [] cs.reverse).reverse

/-- The text behind the components of `base`, if the path starts with them. -/
def behind? (base : List Component) (whole : List Char) :
    List (Component × List Char) → Option (List Char)
  | [] => if base.isEmpty then some whole else none
  | (c, after) :: rest =>
    match base with
    | [] => some whole
    | b :: bs => if b = c then behind? bs after rest else none

/-- The path relative to `base`, if it lies there. -/
def relativeTo? (p base : Path) : Option Path :=
  let whole := p.text.toList
  match base.components with
  | [] => some ⟨String.ofList (whole.take (whole.length - trailing whole))⟩
  | bs => (behind? bs whole (steps whole)).map fun rest =>
      ⟨String.ofList (trimEnd (trimStart [] rest))⟩
where
  /-- The number of characters at the end that name no component. -/
  trailing (whole : List Char) : Nat :=
    match whole with
    | '/' :: rest => rest.length - (trimEnd rest).length
    | ['.'] => 0
    | '.' :: rest => if rest.head? == some '/' then rest.length - (trimEnd rest).length
        else whole.length - (trimEnd whole).length
    | _ => whole.length - (trimEnd whole).length

/-- The name of the file: the last component, if it is a name. -/
def fileName? (p : Path) : Option String :=
  match p.components.getLast? with
  | some (.name n) => some n
  | _ => none

/-- The part of a name behind its last dot, unless that is its first character. -/
def extension? (name : String) : Option String :=
  let reversed := name.toList.reverse
  match reversed.dropWhile (· != '.') with
  | _ :: _ :: _ =>
    if name == ".." then none else some (String.ofList (reversed.takeWhile (· != '.')).reverse)
  | _ => none

/-- The components of the directory that holds the path. The root and the empty path have none. -/
def parentComponents? (p : Path) : Option (List Component) :=
  match p.components.getLast? with
  | none | some .root => none
  | some _ => some p.components.dropLast

/-- The directories that hold the last of some components, which come in reverse order. -/
def holders (whole : List Char) : List (Component × List Char) → List Path
  | [] | [(.root, _)] => []
  | [_] => [⟨""⟩]
  | _ :: (c, after) :: rest =>
    ⟨String.ofList (whole.take (whole.length - after.length))⟩ :: holders whole ((c, after) :: rest)

/-- The path, the directory that holds it, the directory that holds that one, and so on. -/
def ancestors (p : Path) : List Path :=
  let whole := p.text.toList
  p :: holders whole (steps whole).reverse

/-- The directory that holds the path. For a single name it is the current one, the empty path. -/
def parent? (p : Path) : Option Path := p.ancestors[1]?

/-- The path as messages show it: relative to `root` if it lies there, and with plain slashes. -/
def display (root p : Path) : String :=
  let shown := (p.relativeTo? root).getD p
  String.ofList (shown.text.toList.map fun c => if c == '\\' then '/' else c)

end Path
end WorkItems
