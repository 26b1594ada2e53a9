import WorkItems.Pattern
import WorkItems.Pattern.Error
import WorkItems.Text.Blank
import WorkItems.Unicode.Case
import WorkItems.Unicode.Named
/-!
# Flags of patterns, and the sets of characters that depend on them

Flags change how the text of a pattern is read. They hold to the end of the group in which they are
set. A flag that only prefers short repetitions to long ones is accepted and not kept, since it does
not change whether a text fits.
-/

namespace WorkItems.Pattern

structure Flags where
  /-- Characters stand for all their cases. -/
  ignoreCase : Bool := false
  /-- `^` and `$` stand for the ends of lines, else for those of the text. -/
  manyLines : Bool := false
  /-- A dot stands for a line end too. -/
  dotAll : Bool := false
  /-- Lines may end with a carriage return too. -/
  anyLineEnd : Bool := false
  /-- Classes and words are those of Unicode, else those of ASCII. -/
  unicode : Bool := true
  /-- Blanks and comments in the pattern do not count. -/
  spaced : Bool := false
deriving DecidableEq, Repr

namespace Flags

/-- Sets or unsets the flag of a letter. -/
def assign? (f : Flags) (letter : Char) (on : Bool) : Option Flags :=
  match letter with
  | 'i' => some { f with ignoreCase := on }
  | 'm' => some { f with manyLines := on }
  | 's' => some { f with dotAll := on }
  | 'R' => some { f with anyLineEnd := on }
  | 'u' => some { f with unicode := on }
  | 'x' => some { f with spaced := on }
  | 'U' => some f
  | _ => none

/--
Reads flags up to a colon or a closing bracket, which stays in front of the rest. `seen` are the
letters and the minus sign that have been read, the last one first.
-/
def take (f : Flags) (on : Bool) (seen : List Char) :
    List Char → Except Error (Flags × List Char × List Char)
  | [] => .error .unclosedFlags
  | c :: cs =>
    if c = ':' || c = ')' then
      if seen.head? = some '-' then .error .danglingNegation else .ok (f, seen, c :: cs)
    else if c = '-' then
      if on then take f false ('-' :: seen) cs else .error (.repeatedFlag '-')
    else match f.assign? c on with
      | none => .error (.unknownFlag c)
      | some g => if seen.contains c then .error (.repeatedFlag c) else take g on (c :: seen) cs

/-! ## The characters that count -/

/--
The characters of a pattern that count, each with the text behind it: with the flag for blanks,
neither blanks nor comments, which go from `#` to the end of the line.
-/
def counting (f : Flags) (inComment : Bool) : List Char → List (Char × List Char)
  | [] => []
  | c :: cs =>
    if inComment then counting f (c != '\n') cs
    else if f.spaced && Text.isBlank c then counting f false cs
    else if f.spaced && c == '#' then counting f true cs
    else (c, cs) :: counting f false cs

/-- The text from the first character on that counts. -/
def skip (f : Flags) (cs : List Char) : List Char :=
  if f.spaced then
    match f.counting false cs with
    | [] => []
    | (c, rest) :: _ => c :: rest
  else cs

/-- The counting characters up to the first one that does not satisfy `p`, and the rest. -/
def takeWhile (f : Flags) (p : Char → Bool) (cs : List Char) : List Char × List Char :=
  let taken := (f.counting false cs).takeWhile fun (c, _) => p c
  match taken.getLast? with
  | none => ([], f.skip cs)
  | some (_, rest) => (taken.map (·.1), f.skip rest)

/-- The counting characters up to a closing brace, and the text behind it. -/
def takeBraced (f : Flags) (cs : List Char) : Option (List Char × List Char) :=
  match f.takeWhile (· != '}') cs with
  | (inside, '}' :: rest) => some (inside, rest)
  | _ => none

/-! ## Sets -/

/-- Closes a set under the cases of its characters, if they do not count, and negates it. -/
def adjust (f : Flags) (negated : Bool) (s : CharSet) : CharSet :=
  let s := if !f.ignoreCase then s
    else if f.unicode then Unicode.foldClosure s
    else Unicode.foldClosureAscii s
  if negated then s.complement else s

/-- Without Unicode a set must lie in ASCII, since it would hold parts of characters. -/
def guarded (f : Flags) (s : CharSet) : Except Error CharSet :=
  if f.unicode || s.intervals.all (fun (_, b) => b < 0x80) then .ok s else .error .splitsCharacters

/-- A class in brackets or of a name, once its members are known. -/
def finish (f : Flags) (negated : Bool) (s : CharSet) : Except Error CharSet :=
  f.guarded (f.adjust negated s)

/-- The set of a single character. -/
def ofChar (f : Flags) (c : Char) : CharSet :=
  if f.unicode || c.toNat < 0x80 then f.adjust false (.singleton c) else .singleton c

def asciiDigits : CharSet := .interval 0x30 0x39

def asciiWord : CharSet := ⟨[(0x30, 0x39), (0x41, 0x5A), (0x5F, 0x5F), (0x61, 0x7A)]⟩

def asciiBlanks : CharSet := ⟨[(0x09, 0x0D), (0x20, 0x20)]⟩

/-- The characters of words. -/
def word (f : Flags) : CharSet := if f.unicode then Unicode.wordChars else asciiWord

def digits (f : Flags) : CharSet := if f.unicode then Unicode.categoryNd else asciiDigits

def blanks (f : Flags) : CharSet := if f.unicode then Unicode.blankChars else asciiBlanks

/-- The set that a dot stands for. -/
def dot (f : Flags) : CharSet :=
  if f.dotAll then .all
  else if f.anyLineEnd then CharSet.complement ⟨[(10, 10), (13, 13)]⟩
  else CharSet.complement (.interval 10 10)

def lineStart (f : Flags) : Look :=
  if !f.manyLines then .textStart else if f.anyLineEnd then .anyLineStart else .lineStart

def lineEnd (f : Flags) : Look :=
  if !f.manyLines then .textEnd else if f.anyLineEnd then .anyLineEnd else .lineEnd

end Flags

/-- The classes of ASCII that have a name between `[:` and `:]`. -/
def asciiClass? (name : String) : Option CharSet :=
  match name with
  | "alnum" => some ⟨[(0x30, 0x39), (0x41, 0x5A), (0x61, 0x7A)]⟩
  | "alpha" => some ⟨[(0x41, 0x5A), (0x61, 0x7A)]⟩
  | "ascii" => some ⟨[(0x00, 0x7F)]⟩
  | "blank" => some ⟨[(0x09, 0x09), (0x20, 0x20)]⟩
  | "cntrl" => some ⟨[(0x00, 0x1F), (0x7F, 0x7F)]⟩
  | "digit" => some Flags.asciiDigits
  | "graph" => some ⟨[(0x21, 0x7E)]⟩
  | "lower" => some ⟨[(0x61, 0x7A)]⟩
  | "print" => some ⟨[(0x20, 0x7E)]⟩
  | "punct" => some ⟨[(0x21, 0x2F), (0x3A, 0x40), (0x5B, 0x60), (0x7B, 0x7E)]⟩
  | "space" => some Flags.asciiBlanks
  | "upper" => some ⟨[(0x41, 0x5A)]⟩
  | "word" => some Flags.asciiWord
  | "xdigit" => some ⟨[(0x30, 0x39), (0x41, 0x46), (0x61, 0x66)]⟩
  | _ => none

end WorkItems.Pattern
