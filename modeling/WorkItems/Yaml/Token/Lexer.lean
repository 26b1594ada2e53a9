import WorkItems.Yaml.Token.Flow
import WorkItems.Yaml.Token.Property
/-!
# Cutting a text into tokens

The block structure of YAML is in its indentation, and the lexer turns it into tokens: a block
collection opens when an entry stands deeper than the innermost open column, and closes when the
text returns to the left of it.

A mapping key without `?` shows only when its `:` is read. The lexer therefore remembers, for each
open flow collection and for the block around them, the place where such a *simple key* may have
started, and puts the key token there once the colon comes. A simple key has to lie within one line
and within 1024 characters.
-/

namespace WorkItems.Yaml

/-- The place where a simple key may have started. -/
structure SimpleKey where
  /-- It stands where only a key can stand. -/
  required : Bool
  /-- How many tokens there were before it. -/
  tokensBefore : Nat
  position : Position
deriving DecidableEq, Repr

structure Lexer where
  cursor : Cursor
  /-- The columns of the open block collections, the innermost first. -/
  columns : List Nat
  /-- The possible simple key of the innermost collection. -/
  simpleKey : Option SimpleKey
  /-- Those of the enclosing collections: one for each open flow collection. -/
  enclosing : List (Option SimpleKey)
  /-- Whether a simple key may start here. -/
  keyAllowed : Bool
  /-- The tokens so far, the last one first, and their number. -/
  reversed : List Token
  count : Nat
  ended : Bool
deriving Repr

namespace Lexer

def start (cs : List Char) : Lexer where
  cursor := ⟨.start, cs⟩
  columns := []
  simpleKey := none
  enclosing := []
  keyAllowed := true
  reversed := []
  count := 0
  ended := false

def inFlow (s : Lexer) : Bool := !s.enclosing.isEmpty

def column (s : Lexer) : Nat := s.cursor.column

/-- Adds a token at the end. -/
def emit (s : Lexer) (t : Token) : Lexer :=
  { s with reversed := t :: s.reversed, count := s.count + 1 }

/-- Adds a token behind the first `before` ones. -/
def emitAt (s : Lexer) (before : Nat) (t : Token) : Lexer :=
  let later := s.count - before
  { s with
    reversed := s.reversed.take later ++ t :: s.reversed.drop later
    count := s.count + 1 }

def moveTo (s : Lexer) (c : Cursor) : Lexer := { s with cursor := c }

def allowKey (s : Lexer) (allowed : Bool) : Lexer := { s with keyAllowed := allowed }

/-! ## Block collections -/

/-- A block collection opens in this column, unless it is open already. -/
def openBlock (s : Lexer) (column : Nat) (at? : Option Nat) (t : Token) : Lexer :=
  if s.inFlow || s.columns.head?.any (column ≤ ·) then s
  else
    let opened := { s with columns := column :: s.columns }
    match at? with
    | some before => opened.emitAt before t
    | none => opened.emit t

/-- The block collections that are deeper than this close. -/
def closeBlocks (s : Lexer) (isDeeper : Nat → Bool) : Lexer :=
  if s.inFlow then s
  else
    let closed := (s.columns.takeWhile isDeeper).length
    { s with
      columns := s.columns.drop closed
      reversed := List.replicate closed .blockEnd ++ s.reversed
      count := s.count + closed }

/-! ## Simple keys -/

/-- A required key must not be given up. -/
def dropKey (s : Lexer) : Except Error Lexer :=
  match s.simpleKey with
  | some k => if k.required then .error .missingColon else .ok { s with simpleKey := none }
  | none => .ok s

/-- A simple key may start here, if one may start at all. -/
def saveKey (s : Lexer) : Except Error Lexer :=
  if s.keyAllowed then do
    let required := !s.inFlow && s.columns.head? == some s.column
    let dropped ← s.dropKey
    .ok { dropped with simpleKey := some ⟨required, s.count, s.cursor.position⟩ }
  else .ok s

/-- Whether the place of a simple key is too far back for its colon to come here. -/
def isStale (p : Position) (k : SimpleKey) : Bool :=
  k.position.line < p.line || k.position.index + 1024 < p.index

/-- The stale one of the possible keys is given up, which a required one must not be. -/
def refresh (p : Position) : Option SimpleKey → Except Error (Option SimpleKey)
  | some k =>
    if isStale p k then if k.required then .error .missingColon else .ok none
    else .ok (some k)
  | none => .ok none

def refreshKeys (s : Lexer) : Except Error Lexer := do
  let simpleKey ← refresh s.cursor.position s.simpleKey
  let enclosing ← s.enclosing.mapM (refresh s.cursor.position)
  .ok { s with simpleKey, enclosing }

/-! ## Space between tokens -/

/--
Behind spaces, comments and line breaks. Outside of flow collections a new line may start a key, and
a tab does not count as space where a key may start. A byte order mark at the start of a line counts
as a character of the line and as nothing else.
-/
def skipGap (inFlow inComment keyAllowed : Bool) (p : Position) : List Char → Bool × Cursor
  | [] => (keyAllowed, ⟨p, []⟩)
  | '\r' :: '\n' :: cs => skipGap inFlow false (!inFlow || keyAllowed) (p.newline 2) cs
  | c :: cs =>
    if isBreak c then skipGap inFlow false (!inFlow || keyAllowed) (p.newline 1) cs
    else if inComment || c == ' ' || ((inFlow || !keyAllowed) && c == '\t') ||
        (p.column == 0 && c == '\ufeff') then
      skipGap inFlow inComment keyAllowed (p.advance 1) cs
    else if c == '#' then skipGap inFlow true keyAllowed (p.advance 1) cs
    else (keyAllowed, ⟨p, c :: cs⟩)

def toNextToken (s : Lexer) : Lexer :=
  let (keyAllowed, cursor) :=
    skipGap s.inFlow false s.keyAllowed s.cursor.position s.cursor.rest
  { s with keyAllowed, cursor }

/-! ## One token -/

/-- An indicator of `n` characters. -/
def indicator (s : Lexer) (n : Nat) (t : Token) : Lexer :=
  (s.moveTo (s.cursor.skip n)).emit t

def endOfStream (s : Lexer) : Except Error Lexer := do
  let s ← (s.closeBlocks fun _ => true).dropKey
  .ok { s.emit .streamEnd with ended := true }

def directiveLine (s : Lexer) : Except Error Lexer := do
  let s ← (s.closeBlocks fun _ => true).dropKey
  let (token, after) ← directive s.cursor
  .ok (((s.allowKey false).moveTo after).emit token)

def marker (s : Lexer) (t : Token) : Except Error Lexer := do
  let s ← (s.closeBlocks fun _ => true).dropKey
  .ok ((s.allowKey false).indicator 3 t)

def openFlow (s : Lexer) (t : Token) : Except Error Lexer := do
  let s ← s.saveKey
  let opened := { s with enclosing := s.simpleKey :: s.enclosing, simpleKey := none }
  .ok ((opened.allowKey true).indicator 1 t)

def closeFlow (s : Lexer) (t : Token) : Except Error Lexer := do
  let s ← s.dropKey
  let closed := match s.enclosing with
    | [] => s
    | k :: ks => { s with simpleKey := k, enclosing := ks }
  .ok ((closed.allowKey false).indicator 1 t)

def flowEntry (s : Lexer) : Except Error Lexer := do
  let s ← s.dropKey
  .ok ((s.allowKey true).indicator 1 .flowEntry)

def blockEntry (s : Lexer) : Except Error Lexer := do
  if !s.inFlow && !s.keyAllowed then .error .misplacedIndicator
  let s ← (s.openBlock s.column none .blockSequenceStart).dropKey
  .ok ((s.allowKey true).indicator 1 .blockEntry)

def explicitKey (s : Lexer) : Except Error Lexer := do
  if !s.inFlow && !s.keyAllowed then .error .misplacedIndicator
  let s ← (s.openBlock s.column none .blockMappingStart).dropKey
  .ok ((s.allowKey (!s.inFlow)).indicator 1 .key)

/-- A colon: the possible simple key becomes one, or the value follows an explicit key. -/
def mappingValue (s : Lexer) : Except Error Lexer :=
  match s.simpleKey with
  | some k =>
    let keyed := s.emitAt k.tokensBefore .key
    let opened := keyed.openBlock k.position.column (some k.tokensBefore) .blockMappingStart
    .ok (({ opened with simpleKey := none }.allowKey false).indicator 1 .value)
  | none =>
    if !s.inFlow && !s.keyAllowed then .error .misplacedIndicator
    else
      let opened := s.openBlock s.column none .blockMappingStart
      .ok ((opened.allowKey (!s.inFlow)).indicator 1 .value)

/-- A token that may itself be a simple key. -/
def keyLike (s : Lexer) (read : Cursor → Except Error (Token × Cursor)) : Except Error Lexer := do
  let s ← s.saveKey
  let (token, after) ← read s.cursor
  .ok (((s.allowKey false).moveTo after).emit token)

def aliasToken (c : Cursor) : Except Error (Token × Cursor) := do
  let (name, after) ← anchorName (c.skip 1)
  .ok (.aliasOf name, after)

def anchorToken (c : Cursor) : Except Error (Token × Cursor) := do
  let (name, after) ← anchorName (c.skip 1)
  .ok (.anchor name, after)

def singleQuotedToken (c : Cursor) : Except Error (Token × Cursor) := do
  let inner := c.skip 1
  let (text, after) ← singleQuoted .empty inner.position inner.rest
  .ok (.scalar text .singleQuoted, after)

def doubleQuotedToken (c : Cursor) : Except Error (Token × Cursor) := do
  let inner := c.skip 1
  let (text, after) ← doubleQuoted .none .empty inner.position inner.rest
  .ok (.scalar text .doubleQuoted, after)

def blockScalarToken (s : Lexer) (folded : Bool) : Except Error Lexer := do
  let s ← s.dropKey
  let (text, after) ← blockScalar folded s.columns.head? (s.cursor.skip 1)
  let style := if folded then Style.folded else Style.literal
  .ok (((s.allowKey true).moveTo after).emit (.scalar text style))

def plainToken (s : Lexer) : Except Error Lexer := do
  let s ← s.saveKey
  let indent := (s.columns.head?.map (· + 1)).getD 0
  let (text, onNewLine, after) ←
    plain s.inFlow indent .empty s.cursor.position s.cursor.rest
  .ok (((s.allowKey onNewLine).moveTo after).emit (.scalar text .plain))

/-- Characters with which no plain scalar starts, whatever follows. -/
def isIndicator (c : Char) : Bool :=
  ",[]\x7b\x7d#&*!|>'\"%@\x60".toList.contains c

/-- Whether a plain scalar may start with `c`, which the text `cs` follows. -/
def startsPlain (inFlow : Bool) (c : Char) (cs : List Char) : Bool :=
  if c == '-' then !cs.head?.any isSpace
  else if c == '?' || c == ':' then !inFlow && !atGap cs
  else !isSpaceOrBreak c && !isIndicator c

/-- The token that starts at the cursor. -/
def tokenHere (s : Lexer) : Except Error Lexer :=
  match s.cursor.rest with
  | [] => s.endOfStream
  | c :: cs =>
    if s.column == 0 && c == '%' then s.directiveLine
    else if s.cursor.atMarker then
      s.marker (if c == '-' then .documentStart else .documentEnd)
    else if c == '[' then s.openFlow .flowSequenceStart
    else if c == '{' then s.openFlow .flowMappingStart
    else if c == ']' then s.closeFlow .flowSequenceEnd
    else if c == '}' then s.closeFlow .flowMappingEnd
    else if c == ',' then s.flowEntry
    else if c == '-' && atGap cs then s.blockEntry
    else if c == '?' && (s.inFlow || atGap cs) then s.explicitKey
    else if c == ':' && (s.inFlow || atGap cs) then s.mappingValue
    else if c == '*' then s.keyLike aliasToken
    else if c == '&' then s.keyLike anchorToken
    else if c == '!' then s.keyLike (tagToken s.inFlow)
    else if c == '|' && !s.inFlow then s.blockScalarToken false
    else if c == '>' && !s.inFlow then s.blockScalarToken true
    else if c == '\'' then s.keyLike singleQuotedToken
    else if c == '"' then s.keyLike doubleQuotedToken
    else if startsPlain s.inFlow c cs then s.plainToken
    else .error .noToken

/-- Moves to the next token and reads it. -/
def next (s : Lexer) : Except Error Lexer := do
  let s ← s.toNextToken.refreshKeys
  (s.closeBlocks fun n => s.column < n).tokenHere

/-- Reads tokens up to the end. Every step but the last one reads a character. -/
def run : (fuel : Nat) → Lexer → Except Error Lexer
  | 0, s => .ok s
  | fuel + 1, s => if s.ended then .ok s else s.next.bind (run fuel)

end Lexer

/-- The tokens of a text. -/
def tokens (cs : List Char) : Except Error (List Token) :=
  if !cs.all isAllowed then .error .forbiddenCharacter
  else do
    let s ← (Lexer.start cs).run (cs.length + 2)
    .ok s.reversed.reverse

end WorkItems.Yaml
