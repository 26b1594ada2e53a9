import WorkItems.Dict
import WorkItems.Yaml.Data
/-!
# Reading records

Readers for nodes of which the type is known beforehand: a text, a flag, a number, a list, a
dictionary, or a record with named fields. They look at the node as it is written. A text in
particular keeps the characters of its scalar, so that `001` stays `001`, and what a record does not
ask for is not looked at.
-/

namespace WorkItems.Yaml

variable {α : Type}

/-- The text of any scalar, as it is written. -/
def Node.text (n : Node) : Read String := do
  match ← n.follow with
  | .scalar _ _ text => pure text
  | _ => Read.fail .wrongType

/-- Whether the style of a scalar lets it be read as the standard type `type`. -/
def hasPlainMeaning (type : String) (p : Properties) (style : Style) : Bool :=
  style == .plain || (style == .literal && p.tag == some (standardTag type))

/-- The scalar's characters, if it can be read as the standard type. -/
def Node.plainText (type : String) (n : Node) : Read (List Char) := do
  match ← n.follow with
  | .scalar p style text =>
    if hasPlainMeaning type p style then pure text.toList else Read.fail .wrongType
  | _ => Read.fail .wrongType

/-- Goes on with a value, or refuses the node. -/
def Read.ofOption (o : Option α) : Read α :=
  match o with
  | some a => pure a
  | none => Read.fail .wrongType

def Node.flag (n : Node) : Read Bool := do
  Read.ofOption (readBool? (← n.plainText "bool"))

/-- A natural number below `bound`. -/
def Node.natural (bound : Nat) (n : Node) : Read Nat := do
  Read.ofOption ((readNatural? (← n.plainText "int")).filter (· < bound))

def Node.real (n : Node) : Read Float := do
  Read.ofOption (readReal? (← n.plainText "float"))

/-- Whether a scalar stands for a missing value. -/
def isMissing (p : Properties) (style : Style) (text : String) : Read Bool :=
  if style != .plain then pure false
  else match p.tag with
    | none => pure (text.isEmpty || isNullText text.toList)
    | some tag =>
      if tag != standardTag "null" then pure false
      else if isNullText text.toList then pure true
      else Read.fail .wrongType

/-- Null, or what `read` makes of the node. -/
def Node.optional (read : Node → Read α) (n : Node) : Read (Option α) := do
  match ← n.follow with
  | .scalar p style text =>
    if ← isMissing p style text then pure none
    else some <$> read (.scalar p style text)
  | target => some <$> read target

/-- A node of which nothing is written counts as a collection without elements. -/
def isUnwritten (style : Style) (text : String) : Bool := style == .plain && text.isEmpty

def Node.items (n : Node) : Read (List Node) := do
  match ← n.follow with
  | .sequence _ items => pure items
  | .scalar _ style text => if isUnwritten style text then pure [] else Read.fail .wrongType
  | _ => Read.fail .wrongType

def Node.entries (n : Node) : Read (List (Node × Node)) := do
  match ← n.follow with
  | .mapping _ entries => pure entries
  | .scalar _ style text => if isUnwritten style text then pure [] else Read.fail .wrongType
  | _ => Read.fail .wrongType

def Node.list (read : Node → Read α) (n : Node) : Read (List α) := do
  (← n.items).mapM read

/-- A dictionary. Of entries with one key the last one stays. -/
def Node.dictionary (read : Node → Read α) (n : Node) : Read (Dict α) := do
  let entries ← (← n.entries).mapM fun (k, v) => do pure (← k.text, ← read v)
  pure (Dict.ofList entries)

/-- One of a list of names. A tag may give the name too, if nothing else is written. -/
def Node.name (n : Node) : Read String := do
  match ← n.follow with
  | .scalar p style text =>
    match keptTag? p with
    | none => pure text
    | some tag =>
      if style == .plain && (text.isEmpty || isNullText text.toList) then
        pure tag
      else Read.fail .wrongType
  | _ => Read.fail .wrongType

/-! ## Named fields -/

/-- The fields of a record that are asked for, by name. -/
abbrev Record := List (String × Node)

/-- Collects the entries with a known name, none of which may come twice. -/
def collectFields (known : List String) (acc : Record) : List (Node × Node) → Read Record
  | [] => pure acc
  | (k, v) :: es => do
    let name ← k.text
    if !known.contains name then collectFields known acc es
    else if acc.any (·.1 == name) then Read.fail .duplicateKey
    else collectFields known ((name, v) :: acc) es

/-- The known fields of a record. -/
def Node.record (known : List String) (n : Node) : Read Record := do
  collectFields known [] (← n.entries)

namespace Record

def find? (r : Record) (name : String) : Option Node := (List.find? (·.1 == name) r).map (·.2)

/-- A field that has to be there. -/
def required (r : Record) (name : String) (read : Node → Read α) : Read α :=
  match r.find? name with
  | some n => read n
  | none => Read.fail (.missingField name)

/-- A field with a value for when it is not there. -/
def withDefault (r : Record) (name : String) (default : α) (read : Node → Read α) : Read α :=
  match r.find? name with
  | some n => read n
  | none => pure default

/-- A field that may be missing or null. -/
def optional (r : Record) (name : String) (read : Node → Read α) : Read (Option α) :=
  r.withDefault name none (Node.optional read)

end Record

/-- Reads a text as one record. A text without tokens has no fields. -/
def readText (text : String) (read : Node → Read α) : Except Error α := do
  let d ← Document.ofText text
  (read (d.root.getD .absent)).run d

end WorkItems.Yaml
