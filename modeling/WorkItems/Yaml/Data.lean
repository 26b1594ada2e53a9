import WorkItems.Yaml.Node
import WorkItems.Yaml.Scalar
/-!
# The data of a document

`Data` is what a YAML text says, without the way it is written: aliases are followed and plain
scalars resolved. Keys of mappings may be any data and are distinct.

Two limits keep small texts from standing for huge data: collections may nest 128 deep, and aliases
may be followed at most a hundred times as often as the document has events.
-/

namespace WorkItems.Yaml

inductive Data where
  | null
  | bool (b : Bool)
  | number (n : Number)
  | string (s : String)
  | sequence (items : List Data)
  | mapping (entries : List (Data × Data))
  /-- Data with a tag of its own, which is kept without its exclamation mark. -/
  | tagged (tag : String) (content : Data)
deriving Inhabited

namespace Data

/-! ## Equality of keys -/

/-- Numbers as keys: a NaN equals itself. -/
def sameNumber (a b : Number) : Bool :=
  match a, b with
  | .float x, .float y => x == y || (Decimal.isNaN x && Decimal.isNaN y)
  | _, _ => a == b

/-- The name that a tag gives. A further exclamation mark in front of it does not count. -/
def bareTag (t : String) : String :=
  match t.toList with
  | '!' :: c :: cs => String.ofList (c :: cs)
  | _ => t

/-- Whether two keys are the same. The order of the entries of a mapping does not count. -/
def same : (fuel : Nat) → Data → Data → Bool
  | 0, _, _ => false
  | _ + 1, null, null => true
  | _ + 1, bool a, bool b => a == b
  | _ + 1, number a, number b => sameNumber a b
  | _ + 1, string a, string b => a == b
  | fuel + 1, sequence as, sequence bs =>
    as.length == bs.length && (as.zip bs).all fun (a, b) => same fuel a b
  | fuel + 1, mapping as, mapping bs =>
    as.length == bs.length && as.all fun (k, v) =>
      bs.any fun (l, w) => same fuel k l && same fuel v w
  | fuel + 1, tagged s a, tagged t b => s == t && same fuel a b
  | _ + 1, _, _ => false

/-- Nesting is limited, so this much fuel compares any two keys of a document. -/
def sameKey (a b : Data) : Bool := same 400 a b

end Data

/-! ## Following aliases -/

/-- The document from which nodes are read. -/
abbrev Read := ReaderT Document (StateT Nat (Except Error))

namespace Read

variable {α : Type}

/-- Runs a reader on a document from which no alias has been followed yet. -/
def run (r : Read α) (d : Document) : Except Error α := (·.1) <$> r d 0

def fail (e : Error) : Read α := fun _ _ => .error e

end Read

/-- The node itself, or the one its alias stands for. -/
def Node.follow (n : Node) : Read Node := fun d jumps =>
  match n with
  | .aliasOf number =>
    if d.eventCount * 100 < jumps + 1 then .error .aliasLimit
    else match d.target? number with
      | some target => .ok (target, jumps + 1)
      | none => .error .unknownAlias
  | n => .ok (n, jumps)

/-! ## Reading data -/

/-- The tags of the standard types. -/
def standardTag (name : String) : String := "tag:yaml.org,2002:" ++ name

/-- The tag of a node that is kept with its data, behind the exclamation mark it starts with. -/
def keptTag? (p : Properties) : Option String :=
  match p.tag.map String.toList with
  | some ('!' :: cs) => some (String.ofList cs)
  | _ => none

/-- The data of a plain scalar, or of one whose style does not count. -/
def resolved (text : String) : Read Data :=
  match resolve text.toList with
  | .null => pure .null
  | .bool b => pure (.bool b)
  | .number n => pure (.number n)
  | .string => pure (.string text)
  | .oversized => Read.fail .wrongType

/-- A scalar read as the standard type that its tag names. -/
def standardScalar (type : String) (text : String) : Read Data :=
  let cs := text.toList
  if type == standardTag "bool" then
    match readBool? cs with
    | some b => pure (.bool b)
    | none => Read.fail .wrongType
  else if type == standardTag "int" then
    match ((readInteger? cs).filter isIntegerSized).bind Number.ofInt? with
    | some n => pure (.number n)
    | none => Read.fail .wrongType
  else if type == standardTag "float" then
    match readReal? cs with
    | some x => pure (.number (.float x))
    | none => Read.fail .wrongType
  else if type == standardTag "null" then
    if isNullText cs then pure .null else Read.fail .wrongType
  else pure (.string text)

/-- The data of a scalar. -/
def scalarData (p : Properties) (style : Style) (text : String) : Read Data :=
  match keptTag? p, p.tag with
  | some t, _ => .tagged (Data.bareTag t) <$> untagged
  | none, some type => standardScalar type text
  | none, none => untagged
where
  untagged : Read Data := if style == .plain then resolved text else pure (.string text)

/-- Puts the tag of a collection that is kept around its data. It must not be empty. -/
def withTag (p : Properties) (d : Data) : Read Data :=
  match keptTag? p with
  | some t => if t.isEmpty then Read.fail .badTag else pure (.tagged (Data.bareTag t) d)
  | none => pure d

/-- The entries of a mapping, in the order of the text. A key must not come twice. -/
def readEntries (child : Node → Read Data) (seen : List (Data × Data)) :
    List (Node × Node) → Read (List (Data × Data))
  | [] => pure seen.reverse
  | (k, v) :: es => do
    let key ← child k
    if seen.any fun (l, _) => l.sameKey key then Read.fail .duplicateKey
    else do
      let value ← child v
      readEntries child ((key, value) :: seen) es

/-- The data of a node; `child` reads what is inside of a collection, if one may stand here. -/
def Node.dataWith (child : Option (Node → Read Data)) (n : Node) : Read Data := do
  match ← n.follow with
  | .scalar p style text => scalarData p style text
  | .sequence p items => match child with
    | some child => do withTag p (.sequence (← items.mapM child))
    | none => Read.fail .nestingLimit
  | .mapping p entries => match child with
    | some child => do withTag p (.mapping (← readEntries child [] entries))
    | none => Read.fail .nestingLimit
  | .aliasOf _ => Read.fail .unknownAlias

/-- The data of a node, with collections nested at most `depth` deep. -/
def Node.data : (depth : Nat) → Node → Read Data
  | 0 => Node.dataWith none
  | depth + 1 => Node.dataWith (some (Node.data depth))

/-- How deep collections may nest. -/
def nestingLimit : Nat := 128

/-- The data of a text. A text without tokens says nothing, which is null. -/
def Data.ofText (text : String) : Except Error Data := do
  let d ← Document.ofText text
  match d.root with
  | some root => (root.data nestingLimit).run d
  | none => .ok .null

end WorkItems.Yaml
