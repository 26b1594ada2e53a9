import WorkItems.Yaml.Token.Lexer
/-!
# The node tree of a document

`Document.ofText` reads a whole text as one document. Tokens become nodes by recursive descent; each
function takes what is left of the tokens and returns what it leaves.

Anchors get numbers as they are met, and an alias keeps the number that its name had at that point.
The number of a new anchor is the count of *distinct names* so far, so a name that is used again may
share its number with a later one; `Document.target?` answers with the last node of a number.
-/

namespace WorkItems.Yaml

/-- What may precede the content of a node. -/
structure Properties where
  anchor : Option Nat
  tag : Option String
deriving DecidableEq, Repr, Inhabited

def Properties.none : Properties := ⟨.none, .none⟩

inductive Node where
  | scalar (properties : Properties) (style : Style) (text : String)
  | sequence (properties : Properties) (items : List Node)
  | mapping (properties : Properties) (entries : List (Node × Node))
  | aliasOf (number : Nat)
deriving Inhabited, Repr

namespace Node

/-- The node that stands where nothing is written. -/
def absent : Node := .scalar .none .plain ""

def properties : Node → Properties
  | scalar p _ _ | sequence p _ | mapping p _ => p
  | aliasOf _ => .none

mutual

/-- The number of events a node stands for: a collection has a start and an end. -/
def eventCount : Node → Nat
  | scalar .. | aliasOf _ => 1
  | sequence _ items => 2 + eventCountItems items
  | mapping _ entries => 2 + eventCountEntries entries

def eventCountItems : List Node → Nat
  | [] => 0
  | n :: ns => n.eventCount + eventCountItems ns

def eventCountEntries : List (Node × Node) → Nat
  | [] => 0
  | (k, v) :: es => k.eventCount + v.eventCount + eventCountEntries es

end

/-- The node itself under its anchor. -/
def ownAnchor (n : Node) : List (Nat × Node) :=
  match n.properties.anchor with
  | some a => [(a, n)]
  | .none => []

mutual

/-- The anchored nodes of a tree with their numbers, in the order of the text. -/
def anchored : Node → List (Nat × Node)
  | scalar p s t => ownAnchor (scalar p s t)
  | sequence p items => ownAnchor (sequence p items) ++ anchoredItems items
  | mapping p entries => ownAnchor (mapping p entries) ++ anchoredEntries entries
  | aliasOf _ => []

def anchoredItems : List Node → List (Nat × Node)
  | [] => []
  | n :: ns => n.anchored ++ anchoredItems ns

def anchoredEntries : List (Node × Node) → List (Nat × Node)
  | [] => []
  | (k, v) :: es => k.anchored ++ v.anchored ++ anchoredEntries es

end
end Node

/-! ## Properties of a node -/

/-- What the reading of nodes goes on with. -/
structure Rest where
  tokens : List Token
  /-- The numbers of the anchors so far. -/
  anchors : List (String × Nat)
deriving Repr

namespace Rest

def peek? (r : Rest) : Option Token := r.tokens.head?

def skip (r : Rest) : Rest := { r with tokens := r.tokens.drop 1 }

/-- Gives an anchor its number. -/
def declare (r : Rest) (name : String) : Nat × Rest :=
  let number := r.anchors.length
  (number, { r with anchors := (name, number) :: r.anchors.filter (·.1 != name) })

end Rest

/-- The handles of tags with what they stand for. -/
abbrev TagHandles := List (String × String)

def resolveTag (handles : TagHandles) (handle suffix : String) : Except Error String :=
  if handle.isEmpty then .ok suffix
  else match handles.find? (·.1 == handle) with
    | some (_, expansion) => .ok (expansion ++ suffix)
    | none => .error .unknownTagHandle

/-- An anchor and a tag as they are written, each at most once and in any order. -/
def writtenProperties (ts : List Token) : Option String × Option (String × String) × List Token :=
  match ts with
  | .anchor a :: .tag h s :: rest => (some a, some (h, s), rest)
  | .tag h s :: .anchor a :: rest => (some a, some (h, s), rest)
  | .anchor a :: rest => (some a, none, rest)
  | .tag h s :: rest => (none, some (h, s), rest)
  | rest => (none, none, rest)

/-- The properties in front of a node. -/
def nodeProperties (handles : TagHandles) (r : Rest) : Except Error (Properties × Rest) := do
  let (anchor, tag, tokens) := writtenProperties r.tokens
  let tag ← match tag with
    | some (handle, suffix) => some <$> resolveTag handles handle suffix
    | none => pure none
  let r := { r with tokens }
  .ok (match anchor with
    | some name => let (number, r) := r.declare name; (⟨some number, tag⟩, r)
    | none => (⟨none, tag⟩, r))

/-! ## Nodes

`block` tells that block collections are allowed, and `indentless` that a block sequence may stand
in the column of the mapping around it. Every function calls the others with less fuel; each call
but a bounded number per token consumes a token.
-/

/-- Where a node stands. -/
structure Place where
  block : Bool
  indentless : Bool
deriving DecidableEq, Repr

def Place.inFlow : Place := ⟨false, false⟩
def Place.item : Place := ⟨true, false⟩
def Place.entry : Place := ⟨true, true⟩

/-- A token before which an entry of a block mapping has no content. -/
def endsBlockEntry : Option Token → Bool
  | some .key | some .value | some .blockEnd => true
  | _ => false

mutual

/-- One node. -/
def node (handles : TagHandles) : (fuel : Nat) → Place → Rest → Except Error (Node × Rest)
  | 0, _, _ => .error .unexpectedToken
  | fuel + 1, place, r =>
    match r.peek? with
    | some (.aliasOf name) =>
      match r.anchors.find? (·.1 == name) with
      | some (_, number) => .ok (.aliasOf number, r.skip)
      | none => .error .unknownAlias
    | _ => do
      let (properties, r) ← nodeProperties handles r
      match r.peek? with
      | some .blockEntry =>
        if place.indentless then do
          let (items, r) ← indentlessItems handles fuel r
          .ok (.sequence properties items, r)
        else emptyNode properties r
      | some (.scalar text style) =>
        let tag := properties.tag.filter (· != "!")
        .ok (.scalar { properties with tag } style text, r.skip)
      | some .flowSequenceStart => do
        let (items, r) ← flowItems handles fuel true r.skip
        .ok (.sequence properties items, r)
      | some .flowMappingStart => do
        let (entries, r) ← flowEntries handles fuel true r.skip
        .ok (.mapping properties entries, r)
      | some .blockSequenceStart =>
        if place.block then do
          let (items, r) ← blockItems handles fuel r.skip
          .ok (.sequence properties items, r)
        else emptyNode properties r
      | some .blockMappingStart =>
        if place.block then do
          let (entries, r) ← blockEntries handles fuel r.skip
          .ok (.mapping properties entries, r)
        else emptyNode properties r
      | _ => emptyNode properties r
where
  /-- A node of which only the properties are written. -/
  emptyNode (properties : Properties) (r : Rest) : Except Error (Node × Rest) :=
    if properties.anchor.isNone && properties.tag.isNone then .error .unexpectedToken
    else .ok (.scalar properties .plain "", r)

/-- The items of a block sequence up to its end. -/
def blockItems (handles : TagHandles) : (fuel : Nat) → Rest → Except Error (List Node × Rest)
  | 0, _ => .error .unexpectedToken
  | fuel + 1, r =>
    match r.peek? with
    | some .blockEnd => .ok ([], r.skip)
    | some .blockEntry => do
      let r := r.skip
      let (item, r) ← match r.peek? with
        | some .blockEntry | some .blockEnd => pure (Node.absent, r)
        | _ => node handles fuel .item r
      let (items, r) ← blockItems handles fuel r
      .ok (item :: items, r)
    | _ => .error .unexpectedToken

/-- The items of a block sequence that has no indentation of its own. -/
def indentlessItems (handles : TagHandles) : (fuel : Nat) → Rest → Except Error (List Node × Rest)
  | 0, _ => .error .unexpectedToken
  | fuel + 1, r =>
    match r.peek? with
    | some .blockEntry => do
      let r := r.skip
      let (item, r) ← match r.peek? with
        | some .blockEntry => pure (Node.absent, r)
        | t => if endsBlockEntry t then pure (Node.absent, r) else node handles fuel .item r
      let (items, r) ← indentlessItems handles fuel r
      .ok (item :: items, r)
    | _ => .ok ([], r)

/-- The entries of a block mapping up to its end. A value may come without its key. -/
def blockEntries (handles : TagHandles) :
    (fuel : Nat) → Rest → Except Error (List (Node × Node) × Rest)
  | 0, _ => .error .unexpectedToken
  | fuel + 1, r =>
    match r.peek? with
    | some .blockEnd => .ok ([], r.skip)
    | some .key => do
      let r := r.skip
      let (key, r) ←
        if endsBlockEntry r.peek? then pure (Node.absent, r) else node handles fuel .entry r
      let (value, r) ← blockValue handles fuel r
      let (entries, r) ← blockEntries handles fuel r
      .ok ((key, value) :: entries, r)
    | _ => .error .unexpectedToken

/-- The value of an entry of a block mapping, if there is one. -/
def blockValue (handles : TagHandles) : (fuel : Nat) → Rest → Except Error (Node × Rest)
  | 0, _ => .error .unexpectedToken
  | fuel + 1, r =>
    match r.peek? with
    | some .value =>
      let r := r.skip
      if endsBlockEntry r.peek? then .ok (.absent, r) else node handles fuel .entry r
    | _ => .ok (.absent, r)

/-- The items of a flow sequence up to its end. A pair among them is a mapping of one entry. -/
def flowItems (handles : TagHandles) :
    (fuel : Nat) → (first : Bool) → Rest → Except Error (List Node × Rest)
  | 0, _, _ => .error .unexpectedToken
  | fuel + 1, first, r =>
    match r.peek? with
    | some .flowSequenceEnd => .ok ([], r.skip)
    | t => do
      let r ←
        if first then pure r
        else if t == some .flowEntry then pure r.skip
        else .error .unexpectedToken
      match r.peek? with
      | some .flowSequenceEnd => .ok ([], r.skip)
      | some .key => do
        let (entry, r) ← flowPair handles fuel r.skip
        let (items, r) ← flowItems handles fuel false r
        .ok (.mapping .none [entry] :: items, r)
      | _ => do
        let (item, r) ← node handles fuel .inFlow r
        let (items, r) ← flowItems handles fuel false r
        .ok (item :: items, r)

/--
A pair in a flow sequence, behind its key token. Where the key is missing the token that stands in
its place is lost.
-/
def flowPair (handles : TagHandles) : (fuel : Nat) → Rest → Except Error ((Node × Node) × Rest)
  | 0, _ => .error .unexpectedToken
  | fuel + 1, r => do
    let (key, r) ← match r.peek? with
      | some .value | some .flowEntry | some .flowSequenceEnd => pure (Node.absent, r.skip)
      | _ => node handles fuel .inFlow r
    let (value, r) ← match r.peek? with
      | some .value =>
        match r.skip.peek? with
        | some .flowEntry | some .flowSequenceEnd => pure (Node.absent, r.skip)
        | _ => node handles fuel .inFlow r.skip
      | _ => pure (Node.absent, r)
    .ok ((key, value), r)

/-- The entries of a flow mapping up to its end. A key may come without its value. -/
def flowEntries (handles : TagHandles) :
    (fuel : Nat) → (first : Bool) → Rest → Except Error (List (Node × Node) × Rest)
  | 0, _, _ => .error .unexpectedToken
  | fuel + 1, first, r =>
    match r.peek? with
    | some .flowMappingEnd => .ok ([], r.skip)
    | t => do
      let r ←
        if first then pure r
        else if t == some .flowEntry then pure r.skip
        else .error .unexpectedToken
      match r.peek? with
      | some .flowMappingEnd => .ok ([], r.skip)
      | some .key => do
        let r := r.skip
        let (key, r) ← match r.peek? with
          | some .value | some .flowEntry | some .flowMappingEnd => pure (Node.absent, r)
          | _ => node handles fuel .inFlow r
        let (value, r) ← match r.peek? with
          | some .value =>
            match r.skip.peek? with
            | some .flowEntry | some .flowMappingEnd => pure (Node.absent, r.skip)
            | _ => node handles fuel .inFlow r.skip
          | _ => pure (Node.absent, r)
        let (entries, r) ← flowEntries handles fuel false r
        .ok ((key, value) :: entries, r)
      | _ => do
        let (key, r) ← node handles fuel .inFlow r
        let (entries, r) ← flowEntries handles fuel false r
        .ok ((key, .absent) :: entries, r)

end

/-! ## Documents -/

/-- A text of one document. The root is missing where the text holds no token at all. -/
structure Document where
  root : Option Node
  /-- The anchored nodes by number. -/
  anchored : List (Nat × Node)
  /-- The number of events of the document. -/
  eventCount : Nat

/-- The node that an alias of this number stands for. -/
def Document.target? (d : Document) (number : Nat) : Option Node :=
  (d.anchored.reverse.find? (·.1 == number)).map (·.2)

/-- The handles that every document has, unless it declares them itself. -/
def defaultHandles : TagHandles := [("!", "!"), ("!!", "tag:yaml.org,2002:")]

/-- The directives in front of a document: at most one version and no handle twice. -/
def directives (version : Bool) (handles : TagHandles) :
    List Token → Except Error (TagHandles × List Token)
  | .version major minor :: ts =>
    if version || major != 1 || (minor != 1 && minor != 2) then .error .badDirective
    else directives true handles ts
  | .tagHandle h e :: ts =>
    if handles.any (·.1 == h) then .error .badDirective
    else directives version ((h, e) :: handles) ts
  | ts => .ok (handles ++ defaultHandles, ts)

/-- A token before which an explicit document has no content. -/
def endsDocument : Option Token → Bool
  | some (.version ..) | some (.tagHandle ..) | some .documentStart | some .documentEnd
  | some .streamEnd => true
  | _ => false

/-- The root of the first document, and the tokens behind it. -/
def firstDocument (ts : List Token) : Except Error (Node × List Token) := do
  let fuel := 4 * ts.length + 8
  let (handles, afterDirectives) ← directives false [] ts
  let explicit := afterDirectives.head? == some .documentStart
  if afterDirectives.length != ts.length && !explicit then .error .unexpectedToken
  let body : Rest := ⟨if explicit then afterDirectives.drop 1 else afterDirectives, []⟩
  if explicit && endsDocument body.peek? then .ok (.absent, body.tokens)
  else do
    let (root, r) ← node handles fuel .item body
    .ok (root, r.tokens)

/-- Reads a text as one document. -/
def Document.ofText (text : String) : Except Error Document := do
  let ts ← tokens text.toList
  if ts == [.streamEnd] then .ok ⟨none, [], 1⟩
  else do
    let (root, rest) ← firstDocument ts
    match rest.dropWhile (· == .documentEnd) with
    | [.streamEnd] => .ok ⟨some root, root.anchored, root.eventCount⟩
    | _ => .error .moreThanOneDocument

end WorkItems.Yaml
