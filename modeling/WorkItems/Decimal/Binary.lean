import WorkItems.Power
/-!
# 64-bit floating-point numbers as exact fractions

A finite number is a natural number times a power of two. `magnitude` takes it apart and `nearest`
goes the other way: from an exact fraction to the closest number of the format, a half going to the
even neighbour. Both work on natural numbers only, so every statement about reading and writing
decimals is a statement about `Nat`.

The word of a number is counted without its sign bit. Words of that kind are ordered as the numbers
are: the word of a number is how many smaller ones there are from zero on.
-/

namespace WorkItems.Decimal

/-- The bits of a word below the exponent. -/
def fractionBits : Nat := 52

/-- The bits of a word below the sign. -/
def wordBits : Nat := 63

/-- The word of positive infinity; a larger word (without sign) is not a number. -/
def infinityWord : Nat := 0x7FF * 2 ^ fractionBits

/-- The word that the name of what is not a number reads as. -/
def nanWord : Nat := infinityWord + 2 ^ (fractionBits - 1)

/-- The word of a number without its sign bit. -/
def word (x : Float) : Nat := x.toBits.toNat % 2 ^ wordBits

/-- Whether the sign bit is set. -/
def isNegative (x : Float) : Bool := 2 ^ wordBits ≤ x.toBits.toNat

/-- The number with this word and sign. -/
def ofWord (negative : Bool) (w : Nat) : Float :=
  .ofBits (.ofNat (if negative then w + 2 ^ wordBits else w))

def isNaN (x : Float) : Bool := infinityWord < word x

def isInfinite (x : Float) : Bool := word x == infinityWord

def isFinite (x : Float) : Bool := word x < infinityWord

/-- A finite word stands for `mantissa * 2 ^ exponent`. -/
structure Magnitude where
  mantissa : Nat
  exponent : Int
deriving DecidableEq, Repr

/-- The mantissa and the exponent of a finite word. -/
def magnitude (w : Nat) : Magnitude :=
  if w < 2 ^ fractionBits then ⟨w, -1074⟩
  else ⟨2 ^ fractionBits + w % 2 ^ fractionBits, (w / 2 ^ fractionBits : Nat) - 1075⟩

/-- The fraction `num / den` that a magnitude is. -/
def Magnitude.fraction (m : Magnitude) : Nat × Nat :=
  (m.mantissa * 2 ^ m.exponent.toNat, 2 ^ (-m.exponent).toNat)

/-- The natural number next to `num / den`, a half going to the even neighbour. -/
def roundHalfEven (num den : Nat) : Nat :=
  let q := num / den
  let r := num % den
  if 2 * r < den then q
  else if den < 2 * r then q + 1
  else if q % 2 = 0 then q else q + 1

/-- `num / (den * 2 ^ e)`, rounded. -/
def scaledMantissa (num den : Nat) (e : Int) : Nat :=
  roundHalfEven (num * 2 ^ (-e).toNat) (den * 2 ^ e.toNat)

/--
The exponent with which `num / den` has a mantissa of 53 bits, or the least one of the format. The
first estimate, from the two bit lengths, is at most one too small.
-/
def mantissaExponent (num den : Nat) : Int :=
  let estimate : Int := (num.log2 : Int) - den.log2 - 53
  let fits (e : Int) : Bool := num * 2 ^ (-e).toNat < den * 2 ^ e.toNat * 2 ^ (fractionBits + 1)
  max (-1074) (if fits estimate then estimate else estimate + 1)

/--
The word of the number nearest to `num / den`. A mantissa that rounds up to 54 bits carries into
the exponent by itself, and a word that leaves the finite range is infinity.
-/
def nearest (num den : Nat) : Nat :=
  if num = 0 then 0
  else
    let e := mantissaExponent num den
    min infinityWord ((e + 1074).toNat * 2 ^ fractionBits + scaledMantissa num den e)

/-- The number nearest to an integer. -/
def ofInt (i : Int) : Float := ofWord (i < 0) (nearest i.natAbs 1)

end WorkItems.Decimal
