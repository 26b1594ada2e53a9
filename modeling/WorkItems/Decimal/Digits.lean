/-!
# Decimal digits of natural numbers

Writing and reading of natural numbers in base ten, over lists of characters.
-/

namespace WorkItems.Decimal

/-- The character of a decimal digit. -/
def digitChar (d : Nat) : Char := Char.ofNat ('0'.toNat + d)

/-- A decimal digit of ASCII. -/
def isDigit (c : Char) : Bool := '0' ≤ c && c ≤ '9'

/-- The value of a digit character. -/
def digitValue (c : Char) : Nat := c.toNat - '0'.toNat

/-- Digits of `n`, in front of those already written. `fuel` bounds their number. -/
def writeDigits : (fuel : Nat) → Nat → List Char → List Char
  | 0, _, acc => acc
  | fuel + 1, n, acc =>
    let acc := digitChar (n % 10) :: acc
    if n < 10 then acc else writeDigits fuel (n / 10) acc

/-- The decimal digits of a natural number, without leading zeros. -/
def digits (n : Nat) : List Char := writeDigits (n.log2 + 1) n []

/-- The value of a text of digits. -/
def value (cs : List Char) : Nat := cs.foldl (fun n c => n * 10 + digitValue c) 0

/-- The digits of `n`, filled up with zeros to `width`. -/
def padded (width n : Nat) : List Char :=
  let ds := digits n
  List.replicate (width - ds.length) '0' ++ ds

/-- A signed decimal. -/
def signed (i : Int) : List Char :=
  if i < 0 then '-' :: digits i.natAbs else digits i.natAbs

/-- The text of a natural number. -/
def natText (n : Nat) : String := String.ofList (digits n)

/-- The text of an integer. -/
def intText (i : Int) : String := String.ofList (signed i)

/-- Reads a non-empty text of digits. -/
def readNat? (cs : List Char) : Option Nat :=
  if cs.isEmpty || !cs.all isDigit then none else some (value cs)

end WorkItems.Decimal
