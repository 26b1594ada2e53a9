import WorkItems.Number
/-!
# JSON

`Data.render` writes JSON over several lines, two columns deeper for each level of nesting. The
members of an object keep their order.
-/

namespace WorkItems.Json

inductive Data where
  | null
  | bool (b : Bool)
  | number (n : Number)
  | string (s : String)
  | array (items : List Data)
  | object (members : List (String × Data))
deriving Inhabited

/-! ## Scalars -/

/-- The letter that stands for a character behind a backslash. -/
def escapeLetter? (c : Char) : Option Char :=
  match c.toNat with
  | 0x08 => some 'b'
  | 0x09 => some 't'
  | 0x0A => some 'n'
  | 0x0C => some 'f'
  | 0x0D => some 'r'
  | 0x22 => some '"'
  | 0x5C => some '\\'
  | _ => none

/-- The digit of a number below 16. -/
def hexDigit (n : Nat) : Char := Char.ofNat (if n < 10 then 48 + n else 87 + n)

/-- A character of a string: quotes, backslashes and control characters are escaped. -/
def escaped (c : Char) : List Char :=
  match escapeLetter? c with
  | some l => ['\\', l]
  | none =>
    let n := c.toNat
    if n < 0x20 then "\\u00".toList ++ [hexDigit (n / 16), hexDigit (n % 16)] else [c]

def stringText (s : String) : String := String.ofList ('"' :: s.toList.flatMap escaped ++ ['"'])

/-- Numbers are laid out as in front matter, but a positive exponent has a sign. -/
def numberLayout : Decimal.Layout where
  least := -4
  greatest := some 16
  wholeEnd := ".0".toList
  nan := "null"
  infinity := "null"
  tie := .even
  exponentSign := ['+']

/-- A number that is not finite is written as null. -/
def numberText : Number → String
  | .int i => Decimal.intText i.toInt
  | .uint u => Decimal.natText u.toNat
  | .float x => if Decimal.isInfinite x then "null" else numberLayout.text x

/-! ## Lines -/

def indentation (depth : Nat) : String := String.ofList (List.replicate (2 * depth) ' ')

/-- Items between brackets, each on a line of its own. -/
def bracketed (opening closing : String) (depth : Nat) (items : List String) : String :=
  if items.isEmpty then opening ++ closing
  else
    let lineStart := "\n" ++ indentation (depth + 1)
    opening ++ lineStart ++ String.intercalate ("," ++ lineStart) items ++
      "\n" ++ indentation depth ++ closing

namespace Data

mutual

/-- The text of data in lines that are `depth` levels deep. -/
def renderAt (depth : Nat) : Data → String
  | null => "null"
  | bool b => if b then "true" else "false"
  | number n => numberText n
  | string s => stringText s
  | array items => bracketed "[" "]" depth (renderItems (depth + 1) items)
  | object members => bracketed "\x7b" "\x7d" depth (renderMembers (depth + 1) members)

def renderItems (depth : Nat) : List Data → List String
  | [] => []
  | d :: ds => renderAt depth d :: renderItems depth ds

def renderMembers (depth : Nat) : List (String × Data) → List String
  | [] => []
  | (key, d) :: ms => (stringText key ++ ": " ++ renderAt depth d) :: renderMembers depth ms

end

def render (d : Data) : String := d.renderAt 0

end Data
end WorkItems.Json
