import WorkItems.Yaml.Token.Cursor
/-!
# Literal and folded block scalars

A block scalar is a header line and the lines below it that are indented. `|` keeps the lines, `>`
folds them; a digit in the header gives the indentation, which otherwise is that of the first line
with text; `-` and `+` drop and keep the line breaks at the end.
-/

namespace WorkItems.Yaml

/-- What becomes of the line breaks at the end of a block scalar. -/
inductive Chomp where
  /-- All of them go. -/
  | strip
  /-- The first stays. -/
  | clip
  /-- All of them stay. -/
  | keep
deriving DecidableEq, Repr

/-! ## The header -/

structure BlockHeader where
  chomp : Chomp
  /-- The indentation relative to the enclosing collection, if it is given. -/
  increment : Option Nat
deriving DecidableEq, Repr

def chompOf? : Char → Option Chomp
  | '+' => some .keep
  | '-' => some .strip
  | _ => none

def digitOf? (c : Char) : Option Nat :=
  if '0' ≤ c && c ≤ '9' then some (c.toNat - 48) else none

/-- The indicators behind `|` or `>`: a chomping sign and a digit in any order, each optional. -/
def blockHeader (c : Cursor) : Except Error (BlockHeader × Cursor) :=
  let sign := c.peek?.bind chompOf?
  let afterSign := if sign.isSome then c.skip 1 else c
  match afterSign.peek?.bind digitOf? with
  | none => .ok (⟨sign.getD .clip, none⟩, afterSign)
  | some 0 => .error .badBlockHeader
  | some n =>
    let afterDigit := afterSign.skip 1
    match sign, afterDigit.peek?.bind chompOf? with
    | some s, _ => .ok (⟨s, some n⟩, afterDigit)
    | none, some s => .ok (⟨s, some n⟩, afterDigit.skip 1)
    | none, none => .ok (⟨.clip, some n⟩, afterDigit)

/-- The rest of a line that may only hold a comment, with its line break. -/
def lineEnd? (c : Cursor) : Option Cursor :=
  let c := c.skipWhile isSpace
  let c := if c.peek? == some '#' then c.skipWhile (!isBreak ·) else c
  if c.peek?.all isBreak then some c.skipBreak else none

/-! ## The lines -/

/-- A block scalar under construction. Texts have their last character first. -/
structure BlockText where
  reversed : List Char
  /-- The line break behind the last line with text. -/
  lineBreak : List Char
  /-- The line breaks of the empty lines below it. -/
  emptyLines : List Char
  /-- Whether the last line with text starts with a space or a tab. -/
  startsBlank : Bool
deriving DecidableEq, Repr

namespace BlockText

def empty : BlockText := ⟨[], [], [], false⟩

/--
A line that starts with `c` is added. A folded scalar joins it to the line above by a space, unless
one of the two starts blank or there are empty lines between them.
-/
def startLine (folded : Bool) (b : BlockText) (c : Char) : BlockText :=
  let joined :=
    if folded && b.lineBreak == ['\n'] && !b.startsBlank && !isSpace c then
      if b.emptyLines.isEmpty then [' '] else []
    else b.lineBreak
  ⟨b.emptyLines ++ joined ++ b.reversed, [], [], isSpace c⟩

def addChar (b : BlockText) (c : Char) : BlockText := { b with reversed := c :: b.reversed }

def endLine (b : BlockText) (c : Char) : BlockText := { b with lineBreak := [c] }

def addEmptyLine (b : BlockText) (c : Char) : BlockText :=
  { b with emptyLines := c :: b.emptyLines }

/-- The text when no further line follows. -/
def text (chomp : Chomp) (b : BlockText) : String :=
  let withBreak := if chomp == .strip then b.reversed else b.lineBreak ++ b.reversed
  let whole := if chomp == .keep then b.emptyLines ++ withBreak else withBreak
  String.ofList whole.reverse

end BlockText

/-- The rules for the lines of one block scalar. -/
structure BlockRules where
  folded : Bool
  chomp : Chomp
  /-- The least indentation that a first line may set. -/
  least : Nat
deriving DecidableEq, Repr

/-- The indentation once the first line with text is reached. -/
def BlockRules.settle (r : BlockRules) (indent : Option Nat) (deepest : Nat) : Nat :=
  indent.getD (max deepest (max r.least 1))

/--
The lines of a block scalar. `inLine` tells that the cursor is inside of the text of a line;
otherwise it is in the margin. `indent` is the indentation if it is known, and `deepest` the deepest
margin so far.
-/
def blockLines (r : BlockRules) (indent : Option Nat) (deepest : Nat) (inLine : Bool)
    (b : BlockText) (p : Position) : List Char → Except Error (String × Cursor)
  | [] => .ok (b.text r.chomp, ⟨p, []⟩)
  | '\r' :: '\n' :: cs =>
    if inLine then blockLines r indent deepest false (b.endLine '\n') (p.newline 2) cs
    else blockLines r indent (max deepest p.column) false (b.addEmptyLine '\n') (p.newline 2) cs
  | c :: cs =>
    if inLine then
      if isBreak c then
        blockLines r indent deepest false (b.endLine (readBreak c)) (p.newline 1) cs
      else blockLines r indent deepest true (b.addChar c) (p.advance 1) cs
    else
      let inMargin := indent.all fun n => p.column < n
      if inMargin && c == ' ' then blockLines r indent deepest false b (p.advance 1) cs
      else if inMargin && c == '\t' then .error .badIndentation
      else if isBreak c then
        blockLines r indent (max deepest p.column) false (b.addEmptyLine (readBreak c))
          (p.newline 1) cs
      else
        let column := r.settle indent (max deepest p.column)
        if p.column == column then
          blockLines r (some column) deepest true ((b.startLine r.folded c).addChar c)
            (p.advance 1) cs
        else .ok (b.text r.chomp, ⟨p, c :: cs⟩)

/--
A block scalar, from behind `|` or `>`. `parent` is the column of the enclosing block collection.
-/
def blockScalar (folded : Bool) (parent : Option Nat) (c : Cursor) :
    Except Error (String × Cursor) := do
  let (header, afterHeader) ← blockHeader c
  let some body := lineEnd? afterHeader | .error .badBlockHeader
  let indent := header.increment.map fun n => parent.getD 0 + n
  let rules := ⟨folded, header.chomp, (parent.map (· + 1)).getD 0⟩
  blockLines rules indent 0 false .empty body.position body.rest

end WorkItems.Yaml
