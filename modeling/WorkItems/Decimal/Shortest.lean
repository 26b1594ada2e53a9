import WorkItems.Decimal.Binary
import WorkItems.Decimal.Digits
import WorkItems.Power
/-!
# The shortest decimal that reads back

`shortest tie w` is the decimal with the fewest digits whose nearest number has the word `w`, and of
those the closest one; where two are equally close, `tie` decides. It tries 1, 2, … 17 digits; on
the grid of a given number of digits only the two neighbours of the value can be the closest. Were
none of them to read back, the value itself, which every finite number has as a finite decimal,
would be the answer.
-/

namespace WorkItems.Decimal

/-- The decimal `digits * 10 ^ exponent`. -/
structure Numeral where
  digits : Nat
  exponent : Int
deriving DecidableEq, Repr

/-- The word of the number nearest to a decimal. -/
def Numeral.nearest (d : Numeral) : Nat :=
  WorkItems.Decimal.nearest (d.digits * 10 ^ d.exponent.toNat) (10 ^ (-d.exponent).toNat)

/-- Strips factors of ten from the digits. `fuel` bounds their number. -/
def Numeral.strip : (fuel : Nat) → Numeral → Numeral
  | 0, d => d
  | fuel + 1, d =>
    if d.digits ≠ 0 ∧ d.digits % 10 = 0 then strip fuel ⟨d.digits / 10, d.exponent + 1⟩ else d

/-- The number of decimal digits of a natural number. -/
def digitCount (n : Nat) : Nat := (digits n).length

/-- The position of the decimal point before the first digit: `num / den < 10 ^ pointOf num den`. -/
def pointOf (num den : Nat) : Int :=
  if den ≤ num then digitCount (num / den) else 1 - (digitCount (den / num) : Int)

/-- The neighbours of `num / den` on the grid of the multiples of `10 ^ s` that read back. -/
def readingBack (w num den : Nat) (s : Int) : List Numeral :=
  let low := (num * 10 ^ (-s).toNat) / (den * 10 ^ s.toNat)
  [Numeral.mk low s, Numeral.mk (low + 1) s].filter fun d => d.nearest == w

/-- Which of two decimals is taken that are equally close. -/
inductive Tie where
  | greater
  /-- The one with the even last digit. -/
  | even
deriving DecidableEq, Repr

/-- Whether a tie between `low` and `low + 1` goes to `low`. -/
def Tie.takesLower (tie : Tie) (low : Nat) : Bool := tie = .even && low % 2 == 0

/--
Whether `low * 10 ^ s` is taken for `num / den`, which lies between it and its upper neighbour.
-/
def isLowerTaken (tie : Tie) (num den low : Nat) (s : Int) : Bool :=
  match compare (2 * num * 10 ^ (-s).toNat) ((2 * low + 1) * den * 10 ^ s.toNat) with
  | .lt => true
  | .eq => tie.takesLower low
  | .gt => false

/-- The closest decimal with `k` digits, if one reads back. -/
def withDigits? (tie : Tie) (w num den : Nat) (k : Nat) : Option Numeral :=
  let s := pointOf num den - k
  match readingBack w num den s with
  | [] => none
  | [d] => some d
  | low :: high :: _ => some (if isLowerTaken tie num den low.digits s then low else high)

/-- The decimal that a magnitude is. -/
def exact (m : Magnitude) : Numeral :=
  ⟨m.mantissa * 2 ^ m.exponent.toNat * 5 ^ (-m.exponent).toNat, -((-m.exponent).toNat : Int)⟩

/-- The shortest decimal that reads back as the finite non-zero word `w`. -/
def shortest (tie : Tie) (w : Nat) : Numeral :=
  let (num, den) := (magnitude w).fraction
  let found := (List.range 17).findSome? fun k => withDigits? tie w num den (k + 1)
  (found.getD (exact (magnitude w))).strip 400

/-! ## Layout

A number is written positionally while its point is not too far from its digits, and otherwise with
an exponent. The limits and the way a whole number ends are a choice of the format.
-/

/-- How a floating-point number is laid out. -/
structure Layout where
  /-- The least position of the point that is still written positionally. -/
  least : Int
  /-- The greatest such position. `none`: there is no exponent form at all. -/
  greatest : Option Int
  /-- What follows the digits of a positional whole number. -/
  wholeEnd : List Char
  nan : String
  infinity : String
  tie : Tie
  /-- What stands between the `e` and the digits of an exponent that is not negative. -/
  exponentSign : List Char := []

/-- `0.0012`, `12.5`, `1200`: the digits with the point before the digit number `point`. -/
def positional (layout : Layout) (ds : List Char) (point : Int) : List Char :=
  if point ≤ 0 then '0' :: '.' :: List.replicate (-point).toNat '0' ++ ds
  else if point < ds.length then ds.take point.toNat ++ '.' :: ds.drop point.toNat
  else ds ++ List.replicate (point.toNat - ds.length) '0' ++ layout.wholeEnd

/-- `1.25e17`: one digit before the point. -/
def scientific (layout : Layout) (ds : List Char) (point : Int) : List Char :=
  let rest := ds.drop 1
  let exponent := point - 1
  ds.take 1 ++ (if rest.isEmpty then [] else '.' :: rest) ++
    'e' :: (if exponent < 0 then [] else layout.exponentSign) ++ signed exponent

/-- The text of a finite non-zero word. -/
def Layout.finite (layout : Layout) (w : Nat) : List Char :=
  let d := shortest layout.tie w
  let ds := digits d.digits
  let point : Int := ds.length + d.exponent
  match layout.greatest with
  | none => positional layout ds point
  | some greatest =>
    if layout.least ≤ point && point ≤ greatest then positional layout ds point
    else scientific layout ds point

/-- The text of a number. -/
def Layout.text (layout : Layout) (x : Float) : String :=
  if isNaN x then layout.nan
  else
    let magnitudeText :=
      if isInfinite x then layout.infinity.toList
      else if word x = 0 then '0' :: layout.wholeEnd
      else layout.finite (word x)
    String.ofList (if isNegative x then '-' :: magnitudeText else magnitudeText)

end WorkItems.Decimal
