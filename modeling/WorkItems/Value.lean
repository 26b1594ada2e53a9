import WorkItems.Dict
import WorkItems.Number
/-!
# Values of configurable fields

A `Value` is what one field of a front matter holds. It is read from the document once; every check
and every repair then looks at its constructor and not at the text it came from.

The keys of a mapping are texts. A value that comes from a document lists them in ascending order
(`Value.Ordered`).
-/

namespace WorkItems

inductive Value where
  | null
  | bool (b : Bool)
  | number (n : Number)
  | string (s : String)
  | sequence (items : List Value)
  | mapping (entries : List (String × Value))
deriving Inhabited

namespace Value

/-! ## Equality

Values of different kinds differ, and numbers are compared as numbers are: a NaN differs from
itself.
-/

mutual

protected def beq : Value → Value → Bool
  | null, null => true
  | bool a, bool b => a == b
  | number a, number b => a == b
  | string a, string b => a == b
  | sequence as, sequence bs => Value.beqItems as bs
  | mapping as, mapping bs => Value.beqEntries as bs
  | _, _ => false

protected def beqItems : List Value → List Value → Bool
  | [], [] => true
  | a :: as, b :: bs => a.beq b && Value.beqItems as bs
  | _, _ => false

protected def beqEntries : List (String × Value) → List (String × Value) → Bool
  | [], [] => true
  | (k, a) :: as, (l, b) :: bs => k == l && a.beq b && Value.beqEntries as bs
  | _, _ => false

end

instance : BEq Value := ⟨Value.beq⟩

/-! ## Views -/

/-- The name of a value's kind in messages. -/
def typeName : Value → String
  | null => "null"
  | bool _ => "boolean"
  | number _ => "number"
  | string _ => "string"
  | sequence _ => "sequence"
  | mapping _ => "mapping"

/-- Null, a blank string, or a collection without elements: the field counts as not filled in. -/
def isVacant : Value → Bool
  | null => true
  | string s => Text.isBlankText s
  | sequence items => items.isEmpty
  | mapping entries => entries.isEmpty
  | bool _ | number _ => false

def isScalar : Value → Bool
  | sequence _ | mapping _ => false
  | _ => true

def string? : Value → Option String
  | string s => some s
  | _ => none

def float? : Value → Option Float
  | number n => some n.toFloat
  | _ => none

/-! ## Text of a value in messages -/

/-- The texts with a comma between them. -/
def commaSeparated (texts : List String) : String := ", ".intercalate texts

mutual

/-- The text of a value in a message. A string stands for itself, without quotes. -/
def display : Value → String
  | null => "null"
  | bool b => if b then "true" else "false"
  | number n => n.display
  | string s => s
  | sequence items => "[" ++ commaSeparated (displayItems items) ++ "]"
  | mapping entries => "\x7b" ++ commaSeparated (displayEntries entries) ++ "\x7d"

def displayItems : List Value → List String
  | [] => []
  | v :: vs => v.display :: displayItems vs

def displayEntries : List (String × Value) → List String
  | [] => []
  | (k, v) :: es => (k ++ ": " ++ v.display) :: displayEntries es

end

/-- What two elements of an array share when they count as the same: their kind and their text. -/
def identityKey (v : Value) : String := v.typeName ++ ":" ++ v.display

/-! ## Order of keys -/

mutual

/-- All mappings inside a value list their keys in ascending order. -/
def Ordered : Value → Prop
  | sequence items => OrderedItems items
  | mapping entries => Entries.Sorted entries ∧ OrderedEntries entries
  | _ => True

def OrderedItems : List Value → Prop
  | [] => True
  | v :: vs => v.Ordered ∧ OrderedItems vs

def OrderedEntries : List (String × Value) → Prop
  | [] => True
  | (_, v) :: es => v.Ordered ∧ OrderedEntries es

end

end Value
end WorkItems
