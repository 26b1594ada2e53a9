/-!
# Cutting text at a separator
-/

namespace WorkItems.Text

/-- The pieces of a text between separators. There is one more of them than separators. -/
def pieces (sep : Char) : List Char → List (List Char)
  | [] => [[]]
  | c :: cs =>
    if c = sep then [] :: pieces sep cs
    else match pieces sep cs with
      | [] => [[c]]
      | p :: ps => (c :: p) :: ps

/-- The text before the first separator and the text behind it. -/
def cutAt? (sep : Char) (cs : List Char) : Option (List Char × List Char) :=
  match cs.dropWhile (· != sep) with
  | [] => none
  | _ :: rest => some (cs.takeWhile (· != sep), rest)

/-- The text before the first occurrence of `a` followed by `b`, and the text behind the two. -/
def cutAtPair? (a b : Char) : List Char → Option (List Char × List Char)
  | c :: d :: cs =>
    if c = a ∧ d = b then some ([], cs)
    else (cutAtPair? a b (d :: cs)).map fun (before, after) => (c :: before, after)
  | _ => none

/-- The text behind the last separator, or all of it. -/
def behindLast (sep : Char) (cs : List Char) : List Char :=
  (cs.reverse.takeWhile (· != sep)).reverse

/-- A letter or digit of ASCII. -/
def isAlnum (c : Char) : Bool := c.isAlphanum

/-- A hexadecimal digit in either case. -/
def isHex (c : Char) : Bool :=
  c.isDigit || ('a' ≤ c && c ≤ 'f') || ('A' ≤ c && c ≤ 'F')

/-- Lower case of the ASCII letters, and nothing else. -/
def lowerAscii (s : String) : String := String.ofList (s.toList.map Char.toLower)

end WorkItems.Text
