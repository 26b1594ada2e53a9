import WorkItems.Decimal.Shortest
import WorkItems.Power
/-!
# Reading decimals

A floating-point number is written as an optional sign, digits with at most one point among or
around them, and an optional exponent; or as one of the names `inf`, `infinity` and `nan` in any
case. The result is the number nearest to what is written, however long it is.
-/

namespace WorkItems.Decimal

/-- The parts of an unsigned decimal: digits before and after the point, and the exponent. -/
structure Parts where
  whole : List Char
  frac : List Char
  exponent : Int
deriving DecidableEq, Repr

/-- A sign, and the text after it. -/
def readSign : List Char → Bool × List Char
  | '-' :: cs => (true, cs)
  | '+' :: cs => (false, cs)
  | cs => (false, cs)

/-- The text after the digits: nothing, or `e` and a signed number. -/
def readExponent? : List Char → Option Int
  | [] => some 0
  | c :: cs =>
    if c == 'e' || c == 'E' then
      let (negative, ds) := readSign cs
      (readNat? ds).map fun n => if negative then -n else n
    else none

/-- An unsigned decimal. -/
def readParts? (cs : List Char) : Option Parts :=
  let whole := cs.takeWhile isDigit
  let afterWhole := cs.dropWhile isDigit
  let (frac, rest) := match afterWhole with
    | '.' :: r => (r.takeWhile isDigit, r.dropWhile isDigit)
    | r => ([], r)
  if whole.isEmpty && frac.isEmpty then none
  else (readExponent? rest).map fun e => ⟨whole, frac, e⟩

/--
The word nearest to a decimal. A decimal far outside of the range of the format is decided by the
position of its first digit, so that no power of ten is ever larger than needed.
-/
def Parts.nearest (p : Parts) : Nat :=
  let significant := (p.whole ++ p.frac).dropWhile (· == '0')
  let exponent := p.exponent - p.frac.length
  let point := exponent + significant.length
  if significant.isEmpty || point < -400 then 0
  else if 400 < point then infinityWord
  else (Numeral.mk (value significant) exponent).nearest

/-- Lower case of an ASCII letter. -/
def lowerAscii (c : Char) : Char := if 'A' ≤ c && c ≤ 'Z' then Char.ofNat (c.toNat + 32) else c

/-- Reads a floating-point number; the whole text must be one. -/
def readFloat? (cs : List Char) : Option Float :=
  let (negative, body) := readSign cs
  let name := body.map lowerAscii
  if name == "inf".toList || name == "infinity".toList then some (ofWord negative infinityWord)
  else if name == "nan".toList then some (ofWord negative nanWord)
  else (readParts? body).map fun p => ofWord negative p.nearest

/-- Reads a finite floating-point number. -/
def readFinite? (cs : List Char) : Option Float :=
  (readFloat? cs).filter isFinite

/-- Reads a signed integer. -/
def readInt? (cs : List Char) : Option Int :=
  let (negative, ds) := readSign cs
  (readNat? ds).map fun n => if negative then -n else n

end WorkItems.Decimal
