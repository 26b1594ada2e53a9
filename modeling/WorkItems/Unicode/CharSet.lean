/-!
# Sets of characters as intervals of code points

A `CharSet` is a list of intervals, in ascending order and with a gap between neighbours when it
comes from `normalize`. Membership is stated on the list alone and does not need that order.
Tables of Unicode properties are written as text (`41-5A 61-7A`) and read by `ofText`.
-/

namespace WorkItems

/-- A set of code points: the union of the closed intervals `(first, last)`. -/
structure CharSet where
  intervals : List (Nat × Nat)
deriving DecidableEq, Repr

namespace CharSet

/-- The largest code point. -/
def maxPoint : Nat := 0x10FFFF

/-- Whether a code point is in the set. -/
def has (s : CharSet) (n : Nat) : Bool :=
  s.intervals.any fun (a, b) => a ≤ n && n ≤ b

/-- Whether a character is in the set. -/
def contains (s : CharSet) (c : Char) : Bool := s.has c.toNat

def empty : CharSet := ⟨[]⟩

def all : CharSet := ⟨[(0, maxPoint)]⟩

def interval (a b : Nat) : CharSet := ⟨[(a, b)]⟩

def singleton (c : Char) : CharSet := interval c.toNat c.toNat

/-! ## Normal form

Intervals sorted by their first point are merged from the left: `merge a b rest` holds the interval
`(a, b)` that is still open.
-/

/-- Merge the open interval with those that follow it in order and touch it. -/
def merge (a b : Nat) : List (Nat × Nat) → List (Nat × Nat)
  | [] => [(a, b)]
  | (c, d) :: rest =>
    if c ≤ b + 1 then merge a (max b d) rest else (a, b) :: merge c d rest

/-- Sorted intervals with a gap between neighbours, the empty ones dropped. -/
def normalize (s : CharSet) : CharSet :=
  match (s.intervals.filter fun (a, b) => a ≤ b).mergeSort (fun x y => x.1 ≤ y.1) with
  | [] => empty
  | (a, b) :: rest => ⟨merge a b rest⟩

def union (s t : CharSet) : CharSet := normalize ⟨s.intervals ++ t.intervals⟩

def unions (ss : List CharSet) : CharSet := normalize ⟨ss.flatMap (·.intervals)⟩

/-- The gaps of a normalized list of intervals from `n` on. -/
def gaps (n : Nat) : List (Nat × Nat) → List (Nat × Nat)
  | [] => if n ≤ maxPoint then [(n, maxPoint)] else []
  | (a, b) :: rest => if n < a then (n, a - 1) :: gaps (b + 1) rest else gaps (b + 1) rest

def complement (s : CharSet) : CharSet := ⟨gaps 0 s.normalize.intervals⟩

/-- Intersection: the complement of the union of the complements. -/
def inter (s t : CharSet) : CharSet := complement (union (complement s) (complement t))

def diff (s t : CharSet) : CharSet := inter s (complement t)

def symmDiff (s t : CharSet) : CharSet := union (diff s t) (diff t s)

/-! ## Tables as text -/

/-- The value of an upper-case hexadecimal digit. -/
def hexValue (c : Char) : Nat :=
  if c.isDigit then c.toNat - '0'.toNat else c.toNat - 'A'.toNat + 10

/-- The words of a text, which blanks and line feeds separate. -/
def words : List Char → List (List Char)
  | [] => []
  | c :: cs =>
    if c == ' ' || c == '\n' then words cs
    else match cs with
      | [] => [[c]]
      | d :: _ =>
        if d == ' ' || d == '\n' then [c] :: words cs
        else match words cs with
          | [] => [[c]]
          | w :: ws => (c :: w) :: ws

/-- The value of a text of hexadecimal digits. -/
def hexNumber (cs : List Char) : Nat := cs.foldl (fun n c => n * 16 + hexValue c) 0

/-- The interval that a word `a-b` or `a` of hexadecimal numbers stands for. -/
def readInterval (word : List Char) : Nat × Nat :=
  let first := word.takeWhile (· != '-')
  let last := word.drop (first.length + 1)
  (hexNumber first, hexNumber (if last.isEmpty then first else last))

/-- The set that a table text lists. -/
def ofText (s : String) : CharSet := ⟨(words s.toList).map readInterval⟩

end CharSet
end WorkItems
