import WorkItems.Power
import WorkItems.Yaml.Data
/-!
# Writing data in block style

`Data.render` writes data over several lines, two columns deeper for each level of nesting. Scalars
are plain where that reads back, between single quotes where a plain one would be something else,
between double quotes where a character needs an escape, and literal where the text has several
lines.
-/

namespace WorkItems.Yaml

/-! ## What a text allows -/

/--
Characters that are written as they are: no control characters but the line feed, no byte order mark
and neither of the last two of the basic plane.
-/
def isPrintable (c : Char) : Bool :=
  let n := c.toNat
  n == 0x0A || (0x20 ≤ n && n ≤ 0x7E) ||
    (0xA0 ≤ n && n != 0xFEFF && n != 0xFFFE && n != 0xFFFF)

/-- Some character stands directly in front of another one. -/
def hasPair (p q : Char → Bool) : List Char → Bool
  | a :: b :: cs => (p a && q b) || hasPair p q (b :: cs)
  | _ => false

/-- `: ` or ` #` inside of a text, or a colon at its end. -/
def hasInnerIndicator : List Char → Bool
  | c :: cs =>
    (c == ':' && atGap cs) || (isSpaceOrBreak c && cs.head? == some '#') || hasInnerIndicator cs
  | [] => false

/-- A text that would not be read as a plain scalar, or not to its end. -/
def hasIndicator (cs : List Char) : Bool :=
  match cs with
  | [] => false
  | c :: rest =>
    cs.take 3 == "---".toList || cs.take 3 == "...".toList || Lexer.isIndicator c ||
      ((c == '?' || c == '-') && atGap rest) || hasInnerIndicator cs

/-- A space or a line break at an end of the text. -/
def isBlankEnd (o : Option Char) : Bool := o.any fun c => c == ' ' || isBreak c

def isMultiline (cs : List Char) : Bool := cs.any isBreak

/-- Between single quotes nothing can be escaped, and spaces around line breaks would be lost. -/
def allowsSingleQuotes (cs : List Char) : Bool :=
  cs.all isPrintable && !hasPair isBreak (· == ' ') cs && !hasPair (· == ' ') isBreak cs

def allowsPlain (cs : List Char) : Bool :=
  cs.all isPrintable && !isMultiline cs && !isBlankEnd cs.head? && !isBlankEnd cs.getLast? &&
    !hasIndicator cs

def allowsLiteral (cs : List Char) : Bool :=
  cs.all isPrintable && cs.getLast? != some ' ' && !hasPair (· == ' ') isBreak cs

/-- The style in which a string is written. -/
def styleOf (cs : List Char) : Style :=
  if cs.contains '\n' then if allowsLiteral cs then .literal else .doubleQuoted
  else if isStringText cs && !hasLeadingZero cs && allowsPlain cs then .plain
  else if allowsSingleQuotes cs then .singleQuoted
  else .doubleQuoted

/-! ## The styles -/

/-- `n` hexadecimal digits. -/
def hexDigits (n value : Nat) : List Char :=
  (List.range n).reverse.map fun k =>
    let d := value / 16 ^ k % 16
    Char.ofNat (if d < 10 then 48 + d else 55 + d)

/-- The letter that stands for a character behind a backslash. -/
def escapeLetter? (c : Char) : Option Char :=
  match c.toNat with
  | 0x00 => some '0'
  | 0x07 => some 'a'
  | 0x08 => some 'b'
  | 0x09 => some 't'
  | 0x0A => some 'n'
  | 0x0B => some 'v'
  | 0x0C => some 'f'
  | 0x0D => some 'r'
  | 0x1B => some 'e'
  | 0x22 => some '"'
  | 0x5C => some '\\'
  | 0x85 => some 'N'
  | 0x2028 => some 'L'
  | 0x2029 => some 'P'
  | _ => none

/-- A character between double quotes. -/
def escaped (c : Char) : List Char :=
  if isPrintable c && !isBreak c && c != '"' && c != '\\' then [c]
  else match escapeLetter? c with
    | some l => ['\\', l]
    | none =>
      let n := c.toNat
      if n ≤ 0xFF then '\\' :: 'x' :: hexDigits 2 n else '\\' :: 'u' :: hexDigits 4 n

def pad (indent : Nat) : List Char := List.replicate indent ' '

/-- The lines of a text, each but an empty one indented. -/
def indented (indent : Nat) (atStart : Bool) : List Char → List Char
  | [] => []
  | c :: cs =>
    if isBreak c then c :: indented indent true cs
    else (if atStart then pad indent else []) ++ c :: indented indent false cs

/-- The indicators behind `|`: the indentation if the text starts blank, and the chomping. -/
def literalHeader (cs : List Char) : List Char :=
  let blankStart := cs.head?.any fun c => c == ' ' || isBreak c
  let chomp := match cs.reverse with
    | [_] => if isMultiline cs then ['+'] else ['-']
    | a :: b :: _ => if !isBreak a then ['-'] else if isBreak b then ['+'] else []
    | [] => ['-']
  (if blankStart then ['2'] else []) ++ chomp

/-- A quote within single quotes is written twice. -/
def doubledQuotes (cs : List Char) : List Char :=
  cs.flatMap fun c => if c == '\'' then ['\'', '\''] else [c]

/-- A string in its style; its further lines have this indentation. -/
def stringText (indent : Nat) (cs : List Char) : List Char :=
  match styleOf cs with
  | .literal => '|' :: literalHeader cs ++ '\n' :: indented indent true cs
  | .singleQuoted =>
    let ending := if cs.getLast?.any isBreak then pad indent else []
    '\'' :: indented indent false (doubledQuotes cs) ++ ending ++ ['\'']
  | .doubleQuoted => '"' :: cs.flatMap escaped ++ ['"']
  | _ => cs

/-! ## Scalars -/

/-- Whole numbers up to 16 digits and fractions down to five places are written positionally. -/
def realLayout : Decimal.Layout where
  least := -4
  greatest := some 16
  wholeEnd := ".0".toList
  nan := ".nan"
  infinity := ".inf"
  tie := .even

def numberText : Number → String
  | .int i => Decimal.intText i.toInt
  | .uint u => Decimal.natText u.toNat
  | .float x => realLayout.text x

/-- Characters of a tag that are written without an escape. -/
def isTagText (c : Char) : Bool := isTagChar true c && c != '%' && c != '!'

/-- A character of a tag. An escape gives its octets. -/
def tagEscaped (c : Char) : List Char :=
  if isTagText c then [c]
  else (String.singleton c).toUTF8.toList.flatMap fun o => '%' :: hexDigits 2 o.toNat

/-- A tag behind its exclamation mark, which one at the start of the tag counts as. -/
def tagBody (tag : String) : List Char :=
  match tag.toList with
  | '!' :: cs => cs
  | cs => cs

/-- A tag as it is written. One that is a bare exclamation mark needs the long form. -/
def writtenTag (tag : String) : List Char :=
  let body := tagBody tag
  if body.isEmpty then "!<%21>".toList else '!' :: body.flatMap tagEscaped

/-- A scalar, or a collection without elements, on the rest of a line. -/
def Data.lineText (indent : Nat) : Data → List Char
  | .null => "null".toList
  | .bool b => (if b then "true" else "false").toList
  | .number n => (numberText n).toList
  | .string s => stringText indent s.toList
  | .sequence _ => "[]".toList
  | .mapping _ => "\x7b\x7d".toList
  | .tagged t d => writtenTag t ++ ' ' :: d.lineText indent

/-- Whether data is a collection with elements. -/
def Data.isBlock : Data → Bool
  | .sequence (_ :: _) | .mapping (_ :: _) => true
  | .tagged _ d => d.isBlock
  | _ => false

/-- Ends the line, unless the text has ended it. -/
def terminated (cs : List Char) : List Char :=
  if cs.getLast?.any isBreak then cs else cs ++ ['\n']

def byteCount (cs : List Char) : Nat := (String.ofList cs).utf8ByteSize

/-- The number of octets of a key and its tag, as long as it lies within one line. -/
def Data.keyLength? : Data → Option Nat
  | .string s => if isMultiline s.toList then none else some s.utf8ByteSize
  | .tagged t d => d.keyLength?.map (byteCount ('!' :: tagBody t) + ·)
  | .sequence (_ :: _) | .mapping (_ :: _) => none
  | .sequence [] | .mapping [] => some 0
  | d => some (byteCount (d.lineText 0))

/-- Whether a key stands in front of its colon; otherwise it follows a question mark. -/
def Data.isSimpleKey (d : Data) : Bool := d.keyLength?.any (· ≤ 128)

/-! ## Collections

A block collection continues the line of the `-`, `?` or `:` before it, unless that colon follows a
simple key or there is a tag; then it starts on a new line. A sequence that starts on a new line
below a key stands in the column of the mapping.
-/

/-- Where data stands: the column of the collection around it, and what it may continue. -/
structure Spot where
  indent : Nat
  continuesLine : Bool
  inMapping : Bool

/-- The column of the entries of a sequence. -/
def Spot.sequenceColumn (s : Spot) : Nat :=
  if s.inMapping && !s.continuesLine then s.indent else s.indent + 2

/-- What separates an indicator from the first entry behind it. -/
def Spot.opening (s : Spot) : List Char := if s.continuesLine then [' '] else ['\n']

mutual

/-- Data behind an indicator, up to the end of its last line. -/
def Data.behind (spot : Spot) : Data → List Char
  | .sequence (item :: items) =>
    spot.opening ++
      Data.itemLines spot.sequenceColumn spot.continuesLine (item :: items)
  | .mapping (entry :: entries) =>
    spot.opening ++ Data.entryLines (spot.indent + 2) spot.continuesLine (entry :: entries)
  | .tagged t d =>
    if d.isBlock then ' ' :: writtenTag t ++ d.behind { spot with continuesLine := false }
    else terminated (' ' :: Data.lineText (spot.indent + 2) (.tagged t d))
  | d => terminated (' ' :: d.lineText (spot.indent + 2))

/-- The items of a sequence in a column; `inLine` tells that the first is already there. -/
def Data.itemLines (column : Nat) (inLine : Bool) : List Data → List Char
  | [] => []
  | d :: ds =>
    (if inLine then [] else pad column) ++ '-' :: d.behind ⟨column, true, false⟩ ++
      Data.itemLines column false ds

/-- The entries of a mapping in a column. -/
def Data.entryLines (column : Nat) (inLine : Bool) : List (Data × Data) → List Char
  | [] => []
  | (k, v) :: es =>
    (if inLine then [] else pad column) ++
      (if k.isSimpleKey then
        k.lineText (column + 2) ++ ':' :: v.behind ⟨column, false, true⟩
      else
        '?' :: k.behind ⟨column, true, true⟩ ++ pad column ++
          ':' :: v.behind ⟨column, true, true⟩) ++
      Data.entryLines column false es

end

/-- The text of data as a whole document. -/
def Data.render (d : Data) : String :=
  String.ofList <| match d with
    | .sequence (item :: items) => Data.itemLines 0 true (item :: items)
    | .mapping (entry :: entries) => Data.entryLines 0 true (entry :: entries)
    | d => (d.behind ⟨0, false, false⟩).drop 1

end WorkItems.Yaml
