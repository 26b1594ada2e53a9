import WorkItems.Pattern.Class
import WorkItems.Power
/-!
# Reading patterns

The text of a pattern is read from left to right. What has been read of the innermost open group is
a `GroupPart`; the groups around it wait in a list. Every step takes at least one character.

Patterns that are nested too deep, or that would take too much space when they are written out, are
refused.
-/

namespace WorkItems.Pattern

/-- A pattern as a member of a sequence. -/
structure Nested where
  pattern : Pattern
  /-- How deep sequences, choices, groups, repetitions and classes are nested in it. -/
  depth : Nat := 0
  /-- Whether a repetition may follow. -/
  repeatable : Bool := true

/-- The part of a group that has been read. -/
structure GroupPart where
  /-- The flags that hold from here on. -/
  flags : Flags
  /-- The choices before the current one, the last one first. -/
  choices : List Nested := []
  /-- The members of the current choice, the last one first. -/
  members : List Nested := []

namespace GroupPart

def add (g : GroupPart) (n : Nested) : GroupPart := { g with members := n :: g.members }

/-- One level above the deepest of the members. -/
def depthOver (ns : List Nested) : Nat := 1 + (ns.map (·.depth)).foldl max 0

/-- The current choice. -/
def choice (g : GroupPart) : Nested :=
  match g.members with
  | [] => { pattern := .empty }
  | [n] => n
  | ns => { pattern := seqs (ns.reverse.map (·.pattern)), depth := depthOver ns }

/-- Starts the next choice. -/
def nextChoice (g : GroupPart) : GroupPart :=
  { g with choices := g.choice :: g.choices, members := [] }

/-- All choices. -/
def whole (g : GroupPart) : Nested :=
  match g.choices with
  | [] => g.choice
  | _ =>
    let ns := g.choice :: g.choices
    { pattern := eithers (ns.reverse.map (·.pattern)), depth := depthOver ns }

/-- Repeats the last member. -/
def repeatLast (g : GroupPart) (low : Nat) (high : Option Nat) : Except Error GroupPart :=
  match g.members with
  | [] => .error .nothingToRepeat
  | n :: ns =>
    if !n.repeatable then .error .nothingToRepeat
    else .ok { g with
      members := { pattern := .repeated n.pattern low high, depth := n.depth + 1 } :: ns }

end GroupPart

/-! ## Groups -/

def isNameStart (c : Char) : Bool := c == '_' || Unicode.alphabetic.contains c

def isNameChar (c : Char) : Bool :=
  isNameStart c || c == '.' || c == '[' || c == ']' || Unicode.numbers.any (·.contains c)

/-- What an opening bracket starts. -/
inductive Opening where
  /-- A group with these flags. -/
  | group (flags : Flags) (names : List String)
  /-- Flags for the rest of the group around. -/
  | flags (flags : Flags)

/-- Reads the name of a group, and keeps it among the names of the pattern. -/
def takeGroupName (f : Flags) (names : List String) (cs : List Char) :
    Except Error (Opening × List Char) :=
  let name := cs.takeWhile (· != '>')
  match name, cs.drop name.length with
  | c :: rest, _ :: behind =>
    let text := String.ofList name
    if !isNameStart c || !rest.all isNameChar then .error .badGroupName
    else if names.contains text then .error (.repeatedGroupName text)
    else .ok (.group f (text :: names), behind)
  | _, _ => .error .badGroupName

/-- Reads what stands behind an opening bracket. -/
def takeOpening (f : Flags) (names : List String) (cs : List Char) :
    Except Error (Opening × List Char) :=
  match f.skip cs with
  | '?' :: '=' :: _ | '?' :: '!' :: _ | '?' :: '<' :: '=' :: _ | '?' :: '<' :: '!' :: _ =>
    .error .lookAround
  | '?' :: 'P' :: '<' :: rest | '?' :: '<' :: rest => takeGroupName f names rest
  | '?' :: rest => do
    let (flags, seen, rest) ← f.take true [] rest
    match rest with
    | ')' :: rest => if seen.isEmpty then throw .nothingToRepeat else return (.flags flags, rest)
    | rest => return (.group flags names, rest.tail)
  | rest => .ok (.group f names, rest)

/-! ## Counts -/

/-- Reads a number of repetitions, with blanks around it. -/
def takeCount (f : Flags) (cs : List Char) : Except Error (Nat × List Char) :=
  let (ds, rest) := f.takeWhile Char.isDigit (cs.dropWhile Text.isBlank)
  let n := Decimal.value ds
  if ds.isEmpty || bitBound 32 ≤ n then .error .badCount
  else .ok (n, f.skip (rest.dropWhile Text.isBlank))

/-- A repetition that is followed by a question mark takes as little as it can. -/
def behindLazy : List Char → List Char
  | '?' :: rest => rest
  | cs => cs

/-- Reads the least and the greatest number of repetitions behind an opening brace. -/
def takeBounds (f : Flags) (cs : List Char) : Except Error (Nat × Option Nat × List Char) := do
  let (low, rest) ← takeCount f (f.skip cs)
  let (high, rest) ← match rest with
    | ',' :: rest =>
      match f.skip rest with
      | '}' :: rest => pure (none, '}' :: rest)
      | rest => (takeCount f rest).map fun (n, rest) => (some n, rest)
    | rest => pure (some low, rest)
  match rest with
  | '}' :: rest =>
    if high.any (· < low) then throw .emptyCount
    return (low, high, behindLazy (f.skip rest))
  | _ => throw .unclosedCount

/-! ## The whole pattern -/

/-- The pattern of a single sign. -/
def Sign.nested (f : Flags) : Sign → Except Error Nested
  | .char c => .ok { pattern := .set (f.ofChar c) }
  | .byte c =>
    if f.unicode || c.toNat < 0x80 then .ok { pattern := .set (f.ofChar c) }
    else .error .splitsCharacters
  | .set s => .ok { pattern := .set s }
  | .look l => .ok { pattern := .look l }

/-- Reads a sign outside of a class. -/
def takeSign (f : Flags) : List Char → Except Error (Nested × List Char)
  | [] => .error .unfinishedEscape
  | '\\' :: rest => do
    let (sign, rest) ← Sign.takeEscape f rest
    return (← sign.nested f, rest)
  | '.' :: rest =>
    if f.unicode then .ok ({ pattern := .set f.dot }, rest) else .error .splitsCharacters
  | '^' :: rest => .ok ({ pattern := .look f.lineStart }, rest)
  | '$' :: rest => .ok ({ pattern := .look f.lineEnd }, rest)
  | c :: rest => .ok ({ pattern := .set (f.ofChar c) }, rest)

/-- Reads a pattern, with the open groups `outer` around `g`, and the names of groups so far. -/
def readGroups (fuel : Nat) (g : GroupPart) (outer : List GroupPart) (names : List String)
    (cs : List Char) : Except Error Nested :=
  match fuel with
  | 0 => .error .unclosedGroup
  | fuel + 1 =>
    match g.flags.skip cs with
    | [] => if outer.isEmpty then .ok g.whole else .error .unclosedGroup
    | '(' :: rest => do
      match ← takeOpening g.flags names rest with
      | (.group flags names, rest) => readGroups fuel { flags } (g :: outer) names rest
      | (.flags flags, rest) =>
        let mark : Nested := { pattern := .empty, repeatable := false }
        readGroups fuel { g.add mark with flags } outer names rest
    | ')' :: rest =>
      match outer with
      | [] => .error .unopenedGroup
      | q :: outer =>
        let n := g.whole
        readGroups fuel (q.add { pattern := n.pattern, depth := n.depth + 1 }) outer names rest
    | '|' :: rest => readGroups fuel g.nextChoice outer names rest
    | '[' :: rest => do
      let (s, rest) ← takeClass g.flags rest
      readGroups fuel (g.add { pattern := .set s.set, depth := s.depth }) outer names rest
    | '?' :: rest => do readGroups fuel (← g.repeatLast 0 (some 1)) outer names (behindLazy rest)
    | '*' :: rest => do readGroups fuel (← g.repeatLast 0 none) outer names (behindLazy rest)
    | '+' :: rest => do readGroups fuel (← g.repeatLast 1 none) outer names (behindLazy rest)
    | '{' :: rest => do
      let (low, high, rest) ← takeBounds g.flags rest
      readGroups fuel (← g.repeatLast low high) outer names rest
    | cs => do
      let (n, rest) ← takeSign g.flags cs
      readGroups fuel (g.add n) outer names rest

/-! ## Limits -/

/-- How deep a pattern may be nested. -/
def maxDepth : Nat := 250

/-- How much space a pattern may take when all its repetitions are written out. -/
def maxSpace : Nat := 10485760

/-- The space of one step of a match. -/
def stepSpace : Nat := 32

/-- The space of a set: characters beyond ASCII are matched in several steps. -/
def setSpace (s : CharSet) : Nat :=
  s.intervals.foldl (fun n (_, b) => n + if b < 0x80 then 8 else 2 * stepSpace) stepSpace

/-- The space that a pattern takes when all its repetitions are written out. -/
def space : Pattern → Nat
  | .empty | .look _ => stepSpace
  | .set s =>
    match s.intervals with
    | [(a, b)] => if a = b || b < 0x80 then stepSpace * (Char.ofNat a).utf8Size else setSpace s
    | _ => setSpace s
  | .seq p q => space p + space q
  | .either p q => space p + space q + 2 * stepSpace
  | .repeated p low none => space p * max low 1 + 2 * stepSpace
  | .repeated p low (some high) =>
    space p * low + (space p + stepSpace) * (high - low) + stepSpace

/-- Reads a pattern. -/
def ofText (s : String) : Except Error Pattern := do
  let cs := s.toList
  let n ← readGroups (cs.length + 1) { flags := {} } [] [] cs
  if maxDepth < n.depth then throw .tooDeep
  if maxSpace < n.pattern.space then throw .tooLarge
  return n.pattern

end WorkItems.Pattern
