import WorkItems.Pattern.Escape
/-!
# Classes in brackets

A class is a set of characters in square brackets: single characters, ranges and classes within it,
and between such groups the operations `&&`, `--` and `~~`, which are applied from the left. A
`ClassPart` is what has been read of a class whose bracket is still open.
-/

namespace WorkItems.Pattern

/-- The operations between the groups of a class. -/
inductive SetOp where
  | inter
  | diff
  | symmDiff
deriving DecidableEq, Repr

def SetOp.apply : SetOp → CharSet → CharSet → CharSet
  | inter => CharSet.inter
  | diff => CharSet.diff
  | symmDiff => CharSet.symmDiff

/-- A set of characters, and how deep the groups are nested that it was written with. -/
structure NestedSet where
  set : CharSet
  depth : Nat

structure ClassPart where
  negated : Bool
  /-- The groups before the last operation, and this operation. -/
  left : Option (NestedSet × SetOp)
  /-- The members of the group that is being read, the last one first. -/
  members : List NestedSet

namespace ClassPart

def add (p : ClassPart) (s : NestedSet) : ClassPart := { p with members := s :: p.members }

/-- The members of a group together. -/
def together : List NestedSet → NestedSet
  | [] => ⟨.empty, 0⟩
  | [s] => s
  | ss => ⟨.unions (ss.map (·.set)), 1 + (ss.map (·.depth)).foldl max 0⟩

/-- All groups so far, combined by their operations. -/
def combined (f : Flags) (p : ClassPart) : NestedSet :=
  let right := together p.members
  match p.left with
  | none => right
  | some (left, op) =>
    ⟨op.apply (f.adjust false left.set) (f.adjust false right.set), 1 + max left.depth right.depth⟩

/-- Starts the group behind an operation. -/
def operate (f : Flags) (p : ClassPart) (op : SetOp) : ClassPart :=
  { p with left := some (p.combined f, op), members := [] }

/-- The set of a class whose bracket is closed. -/
def close (f : Flags) (p : ClassPart) : Except Error NestedSet := do
  let s := p.combined f
  return ⟨← f.finish p.negated s.set, s.depth + 1⟩

def hyphen : NestedSet := ⟨.singleton '-', 0⟩

/-- The class behind an opening bracket: hyphens and a closing bracket stand for themselves here. -/
def start (f : Flags) (cs : List Char) : ClassPart × List Char :=
  let (negated, cs) := match f.skip cs with
    | '^' :: rest => (true, rest)
    | cs => (false, cs)
  let (hyphens, cs) := f.takeWhile (· == '-') cs
  let members := hyphens.map fun _ => hyphen
  match members, cs with
  | [], ']' :: rest => (⟨negated, none, [⟨.singleton ']', 0⟩]⟩, rest)
  | _, _ => (⟨negated, none, members⟩, cs)

end ClassPart

/-! ## Members -/

/-- Reads a character or an escape in a class. -/
def takeMember (f : Flags) : List Char → Except Error (Sign × List Char)
  | [] => .error .unclosedClass
  | '\\' :: rest => Sign.takeEscape f rest
  | c :: rest => .ok (.char c, rest)

/-- The character that a member stands for. Without Unicode it must be one of ASCII. -/
def Sign.single (f : Flags) : Sign → Except Error Char
  | .char c => if f.unicode || c.toNat < 0x80 then .ok c else .error .needsUnicode
  | .byte c => if f.unicode || c.toNat < 0x80 then .ok c else .error .splitsCharacters
  | .set _ | .look _ => .error .noCharacterInRange

/-- The set of a member that is no range. -/
def Sign.members (f : Flags) : Sign → Except Error NestedSet
  | .set s => .ok ⟨s, 0⟩
  | .look _ => .error .noCharacterClass
  | sign => (sign.single f).map fun c => ⟨.singleton c, 0⟩

/-- Reads a member or a range of members. A hyphen in front of a bracket or a hyphen is no range. -/
def takeRange (f : Flags) (cs : List Char) : Except Error (NestedSet × List Char) := do
  let (first, rest) ← takeMember f cs
  let rest := f.skip rest
  match rest with
  | '-' :: behind =>
    let behind := f.skip behind
    if behind.head? = some ']' || behind.head? = some '-' then return (← first.members f, rest)
    let (last, rest) ← takeMember f behind
    let a ← first.single f
    let b ← last.single f
    if b.toNat < a.toNat then throw .backwardRange
    return (⟨.interval a.toNat b.toNat, 0⟩, rest)
  | _ => return (← first.members f, rest)

/--
Reads the name of a class of ASCII behind an opening bracket: whether it is negated, and its set.
-/
def takeAsciiClass? (cs : List Char) : Option (Bool × CharSet × List Char) :=
  match cs with
  | ':' :: rest =>
    let (negated, rest) := match rest with
      | '^' :: rest => (true, rest)
      | _ => (false, rest)
    let name := rest.takeWhile (· != ':')
    match rest.drop name.length, asciiClass? (String.ofList name) with
    | ':' :: ']' :: rest, some s => some (negated, s, rest)
    | _, _ => none
  | _ => none

/--
Reads a class, inside the opened classes `outer`, up to the bracket that closes the outermost.
-/
def readClass (f : Flags) (fuel : Nat) (p : ClassPart) (outer : List ClassPart) (cs : List Char) :
    Except Error (NestedSet × List Char) :=
  match fuel with
  | 0 => .error .unclosedClass
  | fuel + 1 =>
    match f.skip cs with
    | [] => .error .unclosedClass
    | '[' :: rest =>
      match takeAsciiClass? rest with
      | some (negated, s, rest) => do
        let s ← f.finish negated s
        readClass f fuel (p.add ⟨s, 0⟩) outer rest
      | none =>
        let (inner, rest) := ClassPart.start f rest
        readClass f fuel inner (p :: outer) rest
    | ']' :: rest => do
      let s ← p.close f
      match outer with
      | [] => return (s, rest)
      | q :: outer => readClass f fuel (q.add s) outer rest
    | '&' :: '&' :: rest => readClass f fuel (p.operate f .inter) outer rest
    | '-' :: '-' :: rest => readClass f fuel (p.operate f .diff) outer rest
    | '~' :: '~' :: rest => readClass f fuel (p.operate f .symmDiff) outer rest
    | cs => do
      let (s, rest) ← takeRange f cs
      readClass f fuel (p.add s) outer rest

/-- Reads a class behind its opening bracket. -/
def takeClass (f : Flags) (cs : List Char) : Except Error (NestedSet × List Char) :=
  let (p, rest) := ClassPart.start f cs
  readClass f (rest.length + 1) p [] rest

end WorkItems.Pattern
