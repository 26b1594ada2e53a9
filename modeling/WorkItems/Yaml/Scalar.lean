import WorkItems.Number
import WorkItems.Power
/-!
# What a plain scalar means

A plain scalar is null, a boolean, an integer, a floating-point number or, if it is none of these,
a string. Integers may be written in base 2, 8, 10 or 16; a decimal one with leading zeros is a
string.
-/

namespace WorkItems.Yaml

/-- The spellings of null. -/
def isNullText (cs : List Char) : Bool :=
  ["~", "null", "Null", "NULL"].any (·.toList == cs)

def readBool? (cs : List Char) : Option Bool :=
  if ["true", "True", "TRUE"].any (·.toList == cs) then some true
  else if ["false", "False", "FALSE"].any (·.toList == cs) then some false
  else none

/-! ## Integers -/

/-- The value of a digit of a base up to 16. -/
def digitIn? (base : Nat) (c : Char) : Option Nat :=
  let d :=
    if '0' ≤ c && c ≤ '9' then some (c.toNat - 48)
    else if 'a' ≤ c && c ≤ 'f' then some (c.toNat - 87)
    else if 'A' ≤ c && c ≤ 'F' then some (c.toNat - 55)
    else none
  d.filter (· < base)

/-- A non-empty text of digits of a base. -/
def readInBase? (base : Nat) (cs : List Char) : Option Nat :=
  if cs.isEmpty then none
  else cs.foldlM (fun n c => (digitIn? base c).map (n * base + ·)) 0

/-- Digits behind a base sign. -/
def readBased? : List Char → Option Nat
  | '0' :: 'x' :: cs => readInBase? 16 cs
  | '0' :: 'o' :: cs => readInBase? 8 cs
  | '0' :: 'b' :: cs => readInBase? 2 cs
  | _ => none

/-- A zero that further digits follow, with a sign or without. -/
def hasLeadingZero (cs : List Char) : Bool :=
  let ds := match cs with
    | '-' :: r | '+' :: r => r
    | r => r
  match ds with
  | '0' :: d :: r => (d :: r).all Decimal.isDigit
  | _ => false

/-- An integer without a minus sign. -/
def readNatural? (cs : List Char) : Option Nat :=
  let body := match cs with
    | '+' :: r => r
    | r => r
  (readBased? body).or (if hasLeadingZero cs then none else readInBase? 10 body)

/-- The absolute value of an integer with a minus sign. -/
def readNegated? : List Char → Option Nat
  | '-' :: r => (readBased? r).or (if hasLeadingZero r then none else readInBase? 10 r)
  | _ => none

/-- An integer as it is written, of any size. -/
def readInteger? (cs : List Char) : Option Int :=
  ((readNatural? cs).map Int.ofNat).or ((readNegated? cs).map fun n => -n)

/-! ## Floating-point numbers -/

/-- A floating-point number: decimal, or one of the dotted names. -/
def readReal? (cs : List Char) : Option Float :=
  let body := match cs with
    | '+' :: r => r
    | r => r
  let infinite := [".inf", ".Inf", ".INF"].map String.toList
  let signedTwice := match cs with
    | '+' :: '+' :: _ | '+' :: '-' :: _ => true
    | _ => false
  if signedTwice then none
  else if infinite.contains body then some (Decimal.ofWord false Decimal.infinityWord)
  else if infinite.any fun name => cs == '-' :: name then
    some (Decimal.ofWord true Decimal.infinityWord)
  else if [".nan", ".NaN", ".NAN"].any (·.toList == cs) then
    some (Decimal.ofWord false Decimal.nanWord)
  else Decimal.readFinite? body

/-! ## Resolution -/

inductive Resolved where
  | null
  | bool (b : Bool)
  | number (n : Number)
  | string
  /-- An integer that no number holds. -/
  | oversized
deriving Inhabited

/-- Integers beyond 128 bits are not taken for integers. -/
def isIntegerSized (i : Int) : Bool := -(bitBound 127 : Int) ≤ i && i < bitBound 128

/-- The meaning of a plain scalar. -/
def resolve (cs : List Char) : Resolved :=
  if cs.isEmpty || isNullText cs then .null
  else match readBool? cs, (readInteger? cs).filter isIntegerSized with
    | some b, _ => .bool b
    | none, some i => match Number.ofInt? i with
      | some n => .number n
      | none => .oversized
    | none, none =>
      if hasLeadingZero cs then .string
      else match readReal? cs with
        | some x => .number (.float x)
        | none => .string

/-- Whether a plain scalar is read as a string. -/
def isStringText (cs : List Char) : Bool :=
  match resolve cs with
  | .string => true
  | _ => false

end WorkItems.Yaml
