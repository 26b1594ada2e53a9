import WorkItems.Decimal.Reader
import WorkItems.Text.Blank
/-!
# Numbers of a front matter

A number is a signed 64-bit integer, an unsigned one or a floating-point number. Reading prefers
them in that order, so `uint` holds what does not fit into `int`.
-/

namespace WorkItems

inductive Number where
  | int (i : Int64)
  | uint (u : UInt64)
  | float (x : Float)
deriving Inhabited

namespace Number

/-- Numbers of different kinds differ; a NaN differs from itself. -/
protected def beq : Number → Number → Bool
  | int a, int b => a == b
  | uint a, uint b => a == b
  | float a, float b => a == b
  | _, _ => false

instance : BEq Number := ⟨Number.beq⟩

/-- The integer `i` as a number, if 64 bits hold it. -/
def ofInt? (i : Int) : Option Number :=
  if Int64.minValue.toInt ≤ i ∧ i ≤ Int64.maxValue.toInt then some (int (.ofInt i))
  else if 0 ≤ i ∧ i.toNat < UInt64.size then some (uint (.ofNat i.toNat))
  else none

/-- The number as a floating-point number, rounded to the nearest one. -/
def toFloat : Number → Float
  | int i => Decimal.ofInt i.toInt
  | uint u => Decimal.ofInt u.toNat
  | float x => x

/-- Numbers in messages never have an exponent, and a whole number shows no fraction. -/
def plainLayout : Decimal.Layout where
  least := 0
  greatest := none
  wholeEnd := []
  nan := "NaN"
  infinity := "inf"
  tie := .greater

/-- The text of a floating-point number in a message. -/
def floatText (x : Float) : String := plainLayout.text x

/-- The text of a number in a message. -/
def display : Number → String
  | int i => Decimal.intText i.toInt
  | uint u => Decimal.natText u.toNat
  | float x => floatText x

/--
Reads a number between blanks. A `-` before an unsigned number is not read, and a number that is
not an integer must be finite.
-/
def read? (s : String) : Option Number :=
  let cs := Text.trim s.toList
  let wide := (Decimal.readFinite? cs).map float
  match Decimal.readInt? cs with
  | some i => (ofInt? i).or wide
  | none => wide

end Number
end WorkItems
