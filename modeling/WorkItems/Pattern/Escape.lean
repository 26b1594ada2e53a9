import WorkItems.Pattern.Flags
import WorkItems.Decimal.Digits
import WorkItems.Text.Pieces
/-!
# Escapes

What a backslash and the characters behind it stand for. The functions that read something give it
with the rest of the text.
-/

namespace WorkItems.Pattern

/-- What a single sign of a pattern stands for. -/
inductive Sign where
  | char (c : Char)
  /-- A character written as a byte of two hexadecimal digits. -/
  | byte (c : Char)
  | set (s : CharSet)
  | look (l : Look)
deriving DecidableEq, Repr

namespace Sign

/-- The sign for a code point. -/
def ofPoint (make : Char → Sign) (n : Nat) (rest : List Char) : Except Error (Sign × List Char) :=
  if n.isValidChar then .ok (make (Char.ofNat n), rest) else .error .badCodePoint

/-- The value of hexadecimal digits in either case. -/
def hexValue (ds : List Char) : Nat := CharSet.hexNumber (ds.map Char.toUpper)

/-- Reads the code point of a number of hexadecimal digits, or of any number of them in braces. -/
def takeHex (f : Flags) (width : Nat) (cs : List Char) : Except Error (Sign × List Char) :=
  match f.skip cs with
  | [] => .error .unfinishedEscape
  | '{' :: rest =>
    match f.takeBraced rest with
    | none => .error .unfinishedEscape
    | some (ds, rest) =>
      if ds.isEmpty || !ds.all Text.isHex then .error .badCodePoint
      else ofPoint .char (hexValue ds) (f.skip rest)
  | rest =>
    let ds := ((f.counting false rest).take width)
    match ds.getLast? with
    | none => .error .unfinishedEscape
    | some (_, rest) =>
      let ds := ds.map (·.1)
      if ds.length < width then .error .unfinishedEscape
      else if !ds.all Text.isHex then .error .badCodePoint
      else ofPoint (if width = 2 then .byte else .char) (hexValue ds) (f.skip rest)

/-- The class of a name, or of the name of a property and of a value of it. -/
def classOf? (name : List Char) : Option CharSet :=
  match Text.cutAtPair? '!' '=' name with
  | some (name, value) => Unicode.classValued? name value
  | none =>
    match Text.cutAt? ':' name with
    | some (name, value) => Unicode.classValued? name value
    | none =>
      match Text.cutAt? '=' name with
      | some (name, value) => Unicode.classValued? name value
      | none => Unicode.classNamed? name

/-- Reads the name of a class: a letter, or any name in braces. -/
def takeClass (f : Flags) (negated : Bool) (cs : List Char) : Except Error (Sign × List Char) := do
  let (name, rest) ← match f.skip cs with
    | [] => .error .unfinishedEscape
    | '{' :: rest =>
      match f.takeBraced rest with
      | none => .error .unfinishedEscape
      | some (name, rest) => .ok (name, rest)
    | c :: rest => .ok ([c], rest)
  if !f.unicode then throw .needsUnicode
  match classOf? name with
  | none => throw (.unknownClass (String.ofList name))
  | some s => return (.set (f.adjust negated s), rest)

/-- The sign of a class of one letter; the upper case letter stands for all other characters. -/
def ofShorthand (f : Flags) (c : Char) (rest : List Char) : Except Error (Sign × List Char) :=
  let s := if c.toLower = 'd' then f.digits else if c.toLower = 's' then f.blanks else f.word
  (f.guarded (if c.isUpper then s.complement else s)).map fun s => (.set s, rest)

/-- The places that a name in braces behind `\b` stands for. -/
def edge? (f : Flags) : String → Option Look
  | "start" => some (.wordStart f.word)
  | "end" => some (.wordEnd f.word)
  | "start-half" => some (.notAfterWord f.word)
  | "end-half" => some (.notBeforeWord f.word)
  | _ => none

def isEdgeLetter (c : Char) : Bool := c.isAlpha || c == '-'

/-- Reads what may stand behind `\b`: a name in braces. Other braces are left to be a count. -/
def takeEdge (f : Flags) (cs : List Char) : Except Error (Sign × List Char) :=
  match cs with
  | '{' :: rest =>
    match f.skip rest with
    | [] => .error .unfinishedEscape
    | c :: _ =>
      if !isEdgeLetter c then .ok (.look (.wordEdge f.word), cs)
      else match f.takeBraced rest with
        | none => .error .unfinishedEscape
        | some (name, rest) =>
          match edge? f (String.ofList name) with
          | some l => .ok (.look l, rest)
          | none => .error (.unknownEdge (String.ofList name))
  | _ => .ok (.look (.wordEdge f.word), cs)

/-- Whether a character behind a backslash stands for itself. -/
def standsForItself (c : Char) : Bool :=
  c.toNat < 0x80 && !c.isAlphanum && c != '<' && c != '>'

/-- The letters that stand for a control character or for a place. -/
def ofLetter? (f : Flags) : Char → Option Sign
  | 'a' => some (.char '\x07')
  | 'f' => some (.char '\x0c')
  | 't' => some (.char '\t')
  | 'n' => some (.char '\n')
  | 'r' => some (.char '\r')
  | 'v' => some (.char '\x0b')
  | 'A' => some (.look .textStart)
  | 'z' => some (.look .textEnd)
  | 'B' => some (.look (.noWordEdge f.word))
  | '<' => some (.look (.wordStart f.word))
  | '>' => some (.look (.wordEnd f.word))
  | _ => none

/-- Reads what stands behind a backslash. -/
def takeEscape (f : Flags) : List Char → Except Error (Sign × List Char)
  | [] => .error .unfinishedEscape
  | c :: rest =>
    if c.isDigit then .error .backreference
    else if standsForItself c then .ok (.char c, rest)
    else match c with
      | 'x' => takeHex f 2 rest
      | 'u' => takeHex f 4 rest
      | 'U' => takeHex f 8 rest
      | 'p' => takeClass f false rest
      | 'P' => takeClass f true rest
      | 'd' | 'D' | 's' | 'S' | 'w' | 'W' => ofShorthand f c rest
      | 'b' => takeEdge f rest
      | _ =>
        match ofLetter? f c with
        | some sign => .ok (sign, rest)
        | none => .error (.unknownEscape c)

end Sign
end WorkItems.Pattern
