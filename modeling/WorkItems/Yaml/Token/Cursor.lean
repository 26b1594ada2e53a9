import WorkItems.Yaml.Token
/-!
# Characters and positions of a YAML text

Character classes of the YAML grammar, the position of a character, and the folding of line breaks
that plain and quoted scalars share.

A line break is CR, LF, CR LF, NEL, LS or PS. All but the last two read as a line feed.
-/

namespace WorkItems.Yaml

/-- Characters that a YAML text may hold. -/
def isAllowed (c : Char) : Bool :=
  let n := c.toNat
  n == 0x09 || n == 0x0A || n == 0x0D || (0x20 ≤ n && n ≤ 0x7E) || n == 0x85 ||
    (0xA0 ≤ n && n ≤ 0xFFFD) || 0x10000 ≤ n

/-- Space or tab. -/
def isSpace (c : Char) : Bool := c == ' ' || c == '\t'

def isBreak (c : Char) : Bool :=
  c == '\n' || c == '\r' || c == '\u0085' || c == '\u2028' || c == '\u2029'

def isSpaceOrBreak (c : Char) : Bool := isSpace c || isBreak c

/-- What a single line break reads as. -/
def readBreak (c : Char) : Char :=
  if c == '\u2028' || c == '\u2029' then c else '\n'

/-- The text ends here, or goes on with a space, a tab or a line break. -/
def atGap : List Char → Bool
  | [] => true
  | c :: _ => isSpaceOrBreak c

/-- Letters, digits, `_` and `-`: the characters of names. -/
def isWord (c : Char) : Bool := c.isAlphanum || c == '_' || c == '-'

/-- The value of a hexadecimal digit. -/
def hexDigit? (c : Char) : Option Nat :=
  if '0' ≤ c && c ≤ '9' then some (c.toNat - 48)
  else if 'a' ≤ c && c ≤ 'f' then some (c.toNat - 87)
  else if 'A' ≤ c && c ≤ 'F' then some (c.toNat - 55)
  else none

/-- `---` or `...` with a gap behind it. Only the start of a line makes it a marker. -/
def atMarker : List Char → Bool
  | '-' :: '-' :: '-' :: cs => atGap cs
  | '.' :: '.' :: '.' :: cs => atGap cs
  | _ => false

/-! ## Positions -/

/-- Where a character stands, counted from zero. -/
structure Position where
  index : Nat
  line : Nat
  column : Nat
deriving DecidableEq, Repr

namespace Position

def start : Position := ⟨0, 0, 0⟩

/-- Behind `n` characters of the line. -/
def advance (p : Position) (n : Nat) : Position := ⟨p.index + n, p.line, p.column + n⟩

/-- Behind a line break of `n` characters. -/
def newline (p : Position) (n : Nat) : Position := ⟨p.index + n, p.line + 1, 0⟩

end Position

/-- A position and the text from there on. -/
structure Cursor where
  position : Position
  rest : List Char
deriving DecidableEq, Repr

namespace Cursor

/-- Behind the next `n` characters, none of which breaks the line. -/
def skip (c : Cursor) (n : Nat) : Cursor := ⟨c.position.advance n, c.rest.drop n⟩

/-- Behind the next character, if it breaks the line. -/
def skipBreak (c : Cursor) : Cursor :=
  match c.rest with
  | '\r' :: '\n' :: cs => ⟨c.position.newline 2, cs⟩
  | b :: cs => if isBreak b then ⟨c.position.newline 1, cs⟩ else c
  | [] => c

/-- The characters of a class from here on, and the cursor behind them. -/
def takeWhile (c : Cursor) (p : Char → Bool) : List Char × Cursor :=
  let taken := c.rest.takeWhile p
  (taken, ⟨c.position.advance taken.length, c.rest.dropWhile p⟩)

/-- Behind the characters of a class. -/
def skipWhile (c : Cursor) (p : Char → Bool) : Cursor := (c.takeWhile p).2

def column (c : Cursor) : Nat := c.position.column

/-- The next character. -/
def peek? (c : Cursor) : Option Char := c.rest.head?

/-- Whether a document marker starts here. -/
def atMarker (c : Cursor) : Bool := c.column == 0 && Yaml.atMarker c.rest

end Cursor

/-! ## Folding

A scalar of several lines is read as one line: spaces around a line break vanish, a single break
becomes a space, and of several breaks all but the first stay. `Folded` holds the text so far and
the gap behind its last character, which counts only if more text follows.
-/

/-- What stands behind the last character of a scalar. -/
inductive Gap where
  | none
  /-- Spaces and tabs, the last one first. -/
  | spaces (last : List Char)
  /-- A first line break, unless it was escaped, and further ones, the last one first. -/
  | breaks (first : Option Char) (more : List Char)
deriving DecidableEq, Repr

/-- A scalar under construction, its last character first. -/
structure Folded where
  reversed : List Char
  gap : Gap
deriving DecidableEq, Repr

namespace Folded

def empty : Folded := ⟨[], .none⟩

def addSpace (f : Folded) (c : Char) : Folded :=
  match f.gap with
  | .none => { f with gap := .spaces [c] }
  | .spaces cs => { f with gap := .spaces (c :: cs) }
  | .breaks .. => f

def addBreak (f : Folded) (b : Char) : Folded :=
  match f.gap with
  | .breaks first more => { f with gap := .breaks first (b :: more) }
  | _ => { f with gap := .breaks (some b) [] }

/-- The text with its gap folded, because it goes on or because a quote ends it. -/
def close (f : Folded) : List Char :=
  match f.gap with
  | .none => f.reversed
  | .spaces cs => cs ++ f.reversed
  | .breaks (some '\n') [] => ' ' :: f.reversed
  | .breaks (some '\n') more => more ++ f.reversed
  | .breaks (some b) more => more ++ b :: f.reversed
  | .breaks none more => more ++ f.reversed

def addChar (f : Folded) (c : Char) : Folded := ⟨c :: f.close, .none⟩

/-- A line break that is escaped: the text goes on in the next line without a space. -/
def addEscapedBreak (f : Folded) : Folded := ⟨f.close, .breaks none []⟩

/-- Whether the gap reaches into a new line. -/
def onNewLine (f : Folded) : Bool :=
  match f.gap with
  | .breaks .. => true
  | _ => false

/-- The text of a scalar that its gap does not belong to. -/
def text (f : Folded) : String := String.ofList f.reversed.reverse

/-- The text of a scalar that its gap belongs to. -/
def closedText (f : Folded) : String := String.ofList f.close.reverse

end Folded
end WorkItems.Yaml
