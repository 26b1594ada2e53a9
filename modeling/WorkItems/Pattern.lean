import WorkItems.Power
import WorkItems.Unicode.CharSet
/-!
# Patterns

A `Pattern` describes texts: characters of sets, in sequence, by choice and repeated, and conditions
on the place between two characters. `Pattern.occursIn` tells whether some part of a text fits.

Places are numbered from 0, before the first character, to the length of the text. A set of places
is the number whose bits they are, so union is `|||` and moving one character ahead is a shift.
`Pattern.ends` maps the set of the places where a match may start to the set of those where it may
end. A repetition comes to rest once a further round adds nothing.
-/

namespace WorkItems

/-- A condition on the characters next to a place. -/
inductive Look where
  | textStart
  | textEnd
  | lineStart
  | lineEnd
  /-- The start of a line that may end with a carriage return and a line feed, or one of them. -/
  | anyLineStart
  | anyLineEnd
  /-- A place where a word of these characters starts or ends. -/
  | wordEdge (word : CharSet)
  | noWordEdge (word : CharSet)
  | wordStart (word : CharSet)
  | wordEnd (word : CharSet)
  /-- No character of a word in front of the place. -/
  | notAfterWord (word : CharSet)
  /-- No character of a word behind the place. -/
  | notBeforeWord (word : CharSet)
deriving DecidableEq, Repr

inductive Pattern where
  | empty
  | set (s : CharSet)
  | look (l : Look)
  | seq (p q : Pattern)
  | either (p q : Pattern)
  /-- A pattern repeated at least `low` times, and at most `high` times where that is given. -/
  | repeated (p : Pattern) (low : Nat) (high : Option Nat)
deriving DecidableEq, Repr, Inhabited

namespace Pattern

/-- The patterns one behind the other. -/
def seqs : List Pattern → Pattern
  | [] => empty
  | [p] => p
  | p :: ps => seq p (seqs ps)

/-- Any one of the patterns. -/
def eithers : List Pattern → Pattern
  | [] => empty
  | [p] => p
  | p :: ps => either p (eithers ps)

/-! ## Places -/

/-- Whether there is a character, and it belongs to the set. -/
def isIn (s : CharSet) (c : Option Char) : Bool := c.any s.contains

end Pattern

/-- Whether a condition holds between two characters; at an end of the text there is none. -/
def Look.holds (before after : Option Char) : Look → Bool
  | textStart => before == none
  | textEnd => after == none
  | lineStart => before == none || before == some '\n'
  | lineEnd => after == none || after == some '\n'
  | anyLineStart =>
    before == none || before == some '\n' || (before == some '\r' && after != some '\n')
  | anyLineEnd =>
    after == none || after == some '\r' || (after == some '\n' && before != some '\r')
  | wordEdge word => Pattern.isIn word before != Pattern.isIn word after
  | noWordEdge word => Pattern.isIn word before == Pattern.isIn word after
  | wordStart word => !Pattern.isIn word before && Pattern.isIn word after
  | wordEnd word => Pattern.isIn word before && !Pattern.isIn word after
  | notAfterWord word => !Pattern.isIn word before
  | notBeforeWord word => !Pattern.isIn word after

namespace Pattern

/-- The places in front of the characters of a set. -/
def placesOf (s : CharSet) : List Char → Nat
  | [] => 0
  | c :: cs => (s.contains c).toNat + 2 * placesOf s cs

/-- The places where a condition holds, in a text behind the character `before`. -/
def placesWhere (l : Look) (before : Option Char) : List Char → Nat
  | [] => (l.holds before none).toNat
  | c :: cs => (l.holds before (some c)).toNat + 2 * placesWhere l (some c) cs

/-! ## Matches -/

/-- Applies a map of sets of places `n` times, or until it no longer changes anything. -/
def iterate (f : Nat → Nat) : Nat → Nat → Nat
  | 0, places => places
  | n + 1, places =>
    let next := f places
    if next = places then places else iterate f n next

/-- The places where a match may end, of the matches in `text` that start at one of `places`. -/
def ends (text : List Char) : Pattern → Nat → Nat
  | empty, places => places
  | set s, places => (places &&& placesOf s text) <<< 1
  | look l, places => places &&& placesWhere l none text
  | seq p q, places => ends text q (ends text p places)
  | either p q, places => ends text p places ||| ends text q places
  | repeated p low high, places =>
    let start := iterate (ends text p) low places
    let rounds := match high with
      | none => text.length + 1
      | some high => high - low
    iterate (fun places => places ||| ends text p places) rounds start

/-- All places of a text. -/
def allPlaces (text : List Char) : Nat := 2 ^ (text.length + 1) - 1

/-- Whether some part of the text, which may be empty, fits the pattern. -/
def occursIn (p : Pattern) (text : String) : Bool :=
  ends text.toList p (allPlaces text.toList) != 0

end Pattern
end WorkItems
