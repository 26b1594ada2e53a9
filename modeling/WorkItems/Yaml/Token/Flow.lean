import WorkItems.Yaml.Token.Cursor
/-!
# Plain and quoted scalars

Each function reads one character at a time, keeps the text so far as `Folded`, and returns the text
with the cursor behind the scalar. The recursion is on the text, so none of them can fail to end.
-/

namespace WorkItems.Yaml

/-! ## Single quotes -/

/-- Behind the opening quote. Two quotes are a quote, and one is the end. -/
def singleQuoted (f : Folded) (p : Position) : List Char → Except Error (String × Cursor)
  | [] => .error .unterminatedScalar
  | '\r' :: '\n' :: cs => singleQuoted (f.addBreak '\n') (p.newline 2) cs
  | '\'' :: '\'' :: cs => singleQuoted (f.addChar '\'') (p.advance 2) cs
  | '\'' :: cs => .ok (f.closedText, ⟨p.advance 1, cs⟩)
  | c :: cs =>
    if isSpace c then singleQuoted (f.addSpace c) (p.advance 1) cs
    else if isBreak c then singleQuoted (f.addBreak (readBreak c)) (p.newline 1) cs
    else if p.column == 0 && atMarker (c :: cs) then .error .unterminatedScalar
    else singleQuoted (f.addChar c) (p.advance 1) cs

/-! ## Double quotes -/

/-- The character that a backslash and this letter stand for. -/
def simpleEscape? : Char → Option Char
  | '0' => some '\x00'
  | 'a' => some '\x07'
  | 'b' => some '\x08'
  | 't' => some '\t'
  | '\t' => some '\t'
  | 'n' => some '\n'
  | 'v' => some '\x0b'
  | 'f' => some '\x0c'
  | 'r' => some '\r'
  | 'e' => some '\x1b'
  | ' ' => some ' '
  | '"' => some '"'
  | '/' => some '/'
  | '\\' => some '\\'
  | 'N' => some '\u0085'
  | '_' => some '\u00a0'
  | 'L' => some '\u2028'
  | 'P' => some '\u2029'
  | _ => none

/-- How many hexadecimal digits follow a backslash and this letter. -/
def escapeLength? : Char → Option Nat
  | 'x' => some 2
  | 'u' => some 4
  | 'U' => some 8
  | _ => none

/-- The character with this code point, unless it is a surrogate or too large. -/
def charAt? (n : Nat) : Option Char :=
  if n.isValidChar then some (Char.ofNat n) else none

/-- What the next character of a double-quoted scalar continues. -/
inductive Escape where
  /-- Nothing: it stands for itself or opens an escape. -/
  | none
  /-- A backslash. -/
  | opened
  /-- A number that lacks `missing + 1` digits. -/
  | number (missing value : Nat)
deriving DecidableEq, Repr

/-- Behind the opening quote. -/
def doubleQuoted (e : Escape) (f : Folded) (p : Position) :
    List Char → Except Error (String × Cursor)
  | [] => .error .unterminatedScalar
  | '\r' :: '\n' :: cs =>
    match e with
    | .none => doubleQuoted .none (f.addBreak '\n') (p.newline 2) cs
    | .opened => doubleQuoted .none f.addEscapedBreak (p.newline 2) cs
    | .number .. => .error .badEscape
  | c :: cs =>
    match e with
    | .none =>
      if isSpace c then doubleQuoted .none (f.addSpace c) (p.advance 1) cs
      else if isBreak c then doubleQuoted .none (f.addBreak (readBreak c)) (p.newline 1) cs
      else if p.column == 0 && atMarker (c :: cs) then .error .unterminatedScalar
      else if c == '"' then .ok (f.closedText, ⟨p.advance 1, cs⟩)
      else if c == '\\' then doubleQuoted .opened f (p.advance 1) cs
      else doubleQuoted .none (f.addChar c) (p.advance 1) cs
    | .opened =>
      if isBreak c then doubleQuoted .none f.addEscapedBreak (p.newline 1) cs
      else match simpleEscape? c, escapeLength? c with
        | some d, _ => doubleQuoted .none (f.addChar d) (p.advance 1) cs
        | none, some (n + 1) => doubleQuoted (.number n 0) f (p.advance 1) cs
        | none, _ => .error .badEscape
    | .number missing value =>
      match hexDigit? c with
      | none => .error .badEscape
      | some d =>
        match missing, charAt? (value * 16 + d) with
        | n + 1, _ => doubleQuoted (.number n (value * 16 + d)) f (p.advance 1) cs
        | 0, some x => doubleQuoted .none (f.addChar x) (p.advance 1) cs
        | 0, none => .error .badEscape

/-! ## Plain scalars -/

/-- The characters that separate inside of a flow collection. -/
def isFlowIndicator (c : Char) : Bool :=
  c == ',' || c == '[' || c == ']' || c == '{' || c == '}'

/-- Whether a plain scalar ends before `c`, which the text `cs` follows. -/
def endsPlain (inFlow : Bool) (c : Char) (cs : List Char) : Bool :=
  (c == ':' && atGap cs) || (inFlow && isFlowIndicator c)

/-- A colon inside of a flow collection that stands directly before an indicator. -/
def isStrayColon (inFlow : Bool) (c : Char) (cs : List Char) : Bool :=
  inFlow && c == ':' && cs.head?.any fun d => isFlowIndicator d || d == '?'

/-- A plain scalar: its text, whether the gap behind it reaches a new line, and what follows. -/
abbrev PlainEnd := String × Bool × Cursor

/-- The plain scalar is over, and the cursor stands behind the gap that followed it. -/
def endPlain (f : Folded) (p : Position) (cs : List Char) : PlainEnd :=
  (f.text, f.onNewLine, ⟨p, cs⟩)

/--
From the first character of a plain scalar. `indent` is the least column in which a further line may
start outside of flow collections.
-/
def plain (inFlow : Bool) (indent : Nat) (f : Folded) (p : Position) :
    List Char → Except Error PlainEnd
  | [] => .ok (endPlain f p [])
  | '\r' :: '\n' :: cs => plain inFlow indent (f.addBreak '\n') (p.newline 2) cs
  | c :: cs =>
    if isSpace c then
      if f.onNewLine && p.column < indent && c == '\t' then .error .badIndentation
      else plain inFlow indent (f.addSpace c) (p.advance 1) cs
    else if isBreak c then plain inFlow indent (f.addBreak (readBreak c)) (p.newline 1) cs
    else if f.gap != .none && ((!inFlow && p.column < indent) || c == '#' ||
        (p.column == 0 && atMarker (c :: cs))) then
      .ok (endPlain f p (c :: cs))
    else if isStrayColon inFlow c cs then .error .unexpectedColon
    else if endsPlain inFlow c cs then .ok (endPlain f p (c :: cs))
    else plain inFlow indent (f.addChar c) (p.advance 1) cs

end WorkItems.Yaml
