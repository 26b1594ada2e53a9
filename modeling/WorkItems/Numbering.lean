import WorkItems.Power
import WorkItems.Schema
/-!
# Numbered ids

An id is numbered if it ends with digits. A new id counts on from the highest number, with the text
in front of that number and with leading zeros up to the greatest number of digits in use.
-/

namespace WorkItems

/-- An id that ends with a number of 64 bits. -/
structure NumberedId where
  /-- The text in front of the digits. -/
  label : String
  number : Nat
  /-- The number of digits. -/
  width : Nat
deriving DecidableEq, Repr

namespace NumberedId

/-- Numbers are less than this. -/
def bound : Nat := bitBound 64

def ofText? (id : String) : Option NumberedId :=
  let reversed := id.toList.reverse
  let digits := (reversed.takeWhile Char.isDigit).reverse
  let number := Decimal.value digits
  if digits.isEmpty || bound ≤ number then none
  else some {
    label := String.ofList (reversed.dropWhile Char.isDigit).reverse
    number
    width := digits.length }

def render (n : NumberedId) : String :=
  n.label ++ String.ofList (Decimal.padded n.width n.number)

end NumberedId

namespace Numbering

/-- The least number of digits of a new id. -/
def leastWidth : Nat := 3

/-- How many numbers are tried for a new id. -/
def attempts : Nat := 1000

/-- The ids without blanks around them, in order and without repetition. Blank ones do not count. -/
def taken (ids : List String) : List String :=
  (Dict.ofList (((ids.map Text.strip).filter (· ≠ "")).map (·, ()))).keys

/-- The one with the highest number; of several such the first one. -/
def highest (best : NumberedId) : List NumberedId → NumberedId
  | [] => best
  | n :: ns => highest (if best.number < n.number then n else best) ns

/-- The width of a new id. -/
def widest (ns : List NumberedId) : Nat := (ns.map (·.width)).foldl max leastWidth

/-- The id from which is counted on, with the width of a new id. Without numbered ids it is zero. -/
def last (ids : List String) : NumberedId :=
  let ns := (taken ids).filterMap NumberedId.ofText?
  match ns with
  | [] => ⟨"", 0, leastWidth⟩
  | n :: rest => { highest n rest with width := widest ns }

/-- The ids that are tried one after the other. -/
def candidates (ids : List String) : List String :=
  let last := last ids
  ((List.range attempts).map fun k => last.number + k + 1).filter (· < NumberedId.bound) |>.map
    fun number => { last with number : NumberedId }.render

/-- The first id that is not taken and that the schema accepts. -/
def next? (s : Schema) (ids : List String) : Option String :=
  let taken := taken ids
  (candidates ids).find? fun id => !taken.contains id && s.idMatches id

end Numbering
end WorkItems
