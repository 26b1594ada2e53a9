import WorkItems.Yaml.Token.Block
/-!
# Anchors, aliases, tags and directives

The tokens that are made of names: `&name`, `*name`, `!handle!suffix` and the `%` lines above a
document.
-/

namespace WorkItems.Yaml

/-! ## Anchors and aliases -/

/-- What may stand directly behind the name of an anchor or alias. -/
def endsAnchor (cs : List Char) : Bool :=
  atGap cs || "?:,]\x7d%@\x60".toList.contains (cs.headD ' ')

/-- The name behind `&` or `*`. -/
def anchorName (c : Cursor) : Except Error (String × Cursor) :=
  let (name, after) := c.takeWhile isWord
  if name.isEmpty || !endsAnchor after.rest then .error .badAnchor
  else .ok (String.ofList name, after)

/-! ## Tags

The characters of a tag are those of a URI. `%HH` stands for an octet of UTF-8; the octets of one
character stand together.
-/

def isTagChar (verbatim : Bool) (c : Char) : Bool :=
  isWord c || ";/?:@&=+$.!~*'()".toList.contains c || (verbatim && ",[]".toList.contains c)

/-- How many further octets a leading octet announces, and the bits it holds itself. -/
def leadingOctet? (o : Nat) : Option (Nat × Nat) :=
  if o < 0x80 then some (0, o)
  else if 0xC0 ≤ o && o < 0xE0 then some (1, o - 0xC0)
  else if 0xE0 ≤ o && o < 0xF0 then some (2, o - 0xE0)
  else if 0xF0 ≤ o && o < 0xF8 then some (3, o - 0xF0)
  else none

/-- The bits and the number of missing octets after one more octet. -/
def nextOctet? (pending : Option (Nat × Nat)) (o : Nat) : Option (Nat × Nat) :=
  match pending with
  | none => leadingOctet? o
  | some (missing, bits) =>
    if 0x80 ≤ o && o < 0xC0 then some (missing - 1, bits * 64 + (o - 0x80)) else none

/--
The URI characters of a tag, with its octets decoded. `pending` is a character of which octets are
missing, with their number.
-/
def tagChars (verbatim : Bool) (pending : Option (Nat × Nat)) (acc : List Char) (p : Position) :
    List Char → Except Error (List Char × Cursor)
  | '%' :: a :: b :: cs =>
    match hexDigit? a, hexDigit? b with
    | some x, some y =>
      match nextOctet? pending (x * 16 + y) with
      | none => .error .badTag
      | some (0, bits) => tagChars verbatim none (Char.ofNat bits :: acc) (p.advance 3) cs
      | some (n + 1, bits) => tagChars verbatim (some (n + 1, bits)) acc (p.advance 3) cs
    | _, _ => .error .badTag
  | c :: cs =>
    if c == '%' || (pending.isSome && c != '%') then .error .badTag
    else if isTagChar verbatim c then tagChars verbatim none (c :: acc) (p.advance 1) cs
    else .ok (acc.reverse, ⟨p, c :: cs⟩)
  | [] => if pending.isSome then .error .badTag else .ok (acc.reverse, ⟨p, []⟩)

/-- The text of a tag behind `head`, which counts as part of it. Both together are not empty. -/
def tagText (verbatim : Bool) (head : List Char) (c : Cursor) : Except Error (String × Cursor) := do
  let (chars, after) ← tagChars verbatim none [] c.position c.rest
  if head.isEmpty && chars.isEmpty then .error .badTag
  else .ok (String.ofList (head.drop 1 ++ chars), after)

/-- `!`, a name, and `!` again if it follows: the cursor stands at the first `!`. -/
def handle (c : Cursor) : List Char × Cursor :=
  let (name, after) := (c.skip 1).takeWhile isWord
  if after.peek? == some '!' then ('!' :: name ++ ['!'], after.skip 1) else ('!' :: name, after)

/-- `!!` or `!name!`. -/
def isFullHandle (h : List Char) : Bool := 1 < h.length && h.getLast? == some '!'

/-- A tag. The cursor stands at its `!`. -/
def tagToken (inFlow : Bool) (c : Cursor) : Except Error (Token × Cursor) := do
  let (token, after) ←
    match c.rest with
    | '!' :: '<' :: _ => do
      let (suffix, after) ← tagText true [] (c.skip 2)
      if after.peek? == some '>' then pure (Token.tag "" suffix, after.skip 1)
      else .error .badTag
    | _ =>
      let (h, afterHandle) := handle c
      if isFullHandle h then do
        let (suffix, after) ← tagText false [] afterHandle
        pure (Token.tag (String.ofList h) suffix, after)
      else do
        let (suffix, after) ← tagText false h afterHandle
        pure (if suffix.isEmpty then Token.tag "" "!" else Token.tag "!" suffix, after)
  if atGap after.rest || (inFlow && after.peek? == some ',') then .ok (token, after)
  else .error .badTag

/-! ## Directives -/

/-- A number of at most nine digits. -/
def versionNumber (c : Cursor) : Except Error (Nat × Cursor) :=
  let (ds, after) := c.takeWhile Char.isDigit
  if ds.isEmpty || 9 < ds.length then .error .badDirective
  else .ok (ds.foldl (fun n d => n * 10 + (d.toNat - 48)) 0, after)

/-- `%YAML major.minor` behind its name. -/
def versionDirective (c : Cursor) : Except Error (Token × Cursor) := do
  let (major, c) ← versionNumber (c.skipWhile isSpace)
  if c.peek? != some '.' then .error .badDirective
  let (minor, c) ← versionNumber (c.skip 1)
  .ok (.version major minor, c)

/-- `%TAG handle expansion` behind its name. -/
def tagDirective (c : Cursor) : Except Error (Token × Cursor) := do
  let c := c.skipWhile isSpace
  if c.peek? != some '!' then .error .badDirective
  let (h, c) := handle c
  if h != ['!'] && !isFullHandle h then .error .badDirective
  if !c.peek?.any isSpace then .error .badDirective
  let (expansion, c) ← tagText true [] (c.skipWhile isSpace)
  if atGap c.rest then .ok (.tagHandle (String.ofList h) expansion, c) else .error .badDirective

/-- A directive with its line. The cursor stands at the `%`. -/
def directive (c : Cursor) : Except Error (Token × Cursor) := do
  let (name, afterName) := (c.skip 1).takeWhile isWord
  if !atGap afterName.rest then .error .badDirective
  let (token, after) ←
    if name == "YAML".toList then versionDirective afterName
    else if name == "TAG".toList then tagDirective afterName
    else .error .badDirective
  match lineEnd? after with
  | some next => .ok (token, next)
  | none => .error .badDirective

end WorkItems.Yaml
