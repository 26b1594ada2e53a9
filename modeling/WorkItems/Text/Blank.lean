/-!
# Blanks, control characters and lines

The two character classes that every reader and writer of the library shares, and the two
operations on text that are built on them: trimming and cutting into lines.

* A **blank** is a character with the Unicode property `White_Space`.
* A **control character** is a character of the Unicode category `Cc`.

Both classes are small and fixed, so they are written out as intervals here. What depends on a
large table (letter case, categories, scripts) lives under `WorkItems.Unicode`.
-/

namespace WorkItems

-- A condition on the characters of a text is decided along the text, also where an algebra library
-- could go through all characters there are.
attribute [scoped
instance 2000] List.decidableBAll

end WorkItems

namespace WorkItems.Text

/-- A blank has the Unicode property `White_Space`. -/
def isBlank (c : Char) : Bool :=
  let n := c.toNat
  (9 ≤ n && n ≤ 13) || n == 0x20 || n == 0x85 || n == 0xA0 || n == 0x1680 ||
    (0x2000 ≤ n && n ≤ 0x200A) || n == 0x2028 || n == 0x2029 || n == 0x202F ||
    n == 0x205F || n == 0x3000

/-- A control character is in the category `Cc`: C0, DEL or C1. -/
def isControl (c : Char) : Bool :=
  let n := c.toNat
  n < 0x20 || (0x7F ≤ n && n ≤ 0x9F)

/-! ## Trimming -/

/-- The text without the blanks at its end. -/
def trimEnd (cs : List Char) : List Char :=
  (cs.reverse.dropWhile isBlank).reverse

/-- The text without the blanks at its two ends. -/
def trim (cs : List Char) : List Char :=
  trimEnd (cs.dropWhile isBlank)

/-- The text without the blanks at its two ends. -/
def strip (s : String) : String :=
  String.ofList (trim s.toList)

/-- Nothing but blanks. -/
def isBlankText (s : String) : Bool :=
  s.toList.all isBlank

/-! ## Lines -/

/-- Put a character in front of the first line. -/
def consToHead (c : Char) : List (List Char) → List (List Char)
  | [] => [[c]]
  | l :: ls => (c :: l) :: ls

/--
Cut a text after every line feed. Each line keeps its line feed, only the last may lack one, and
no line is empty: joining the lines gives the text back.
-/
def lines : List Char → List (List Char)
  | [] => []
  | c :: cs => if c = '\n' then [c] :: lines cs else consToHead c (lines cs)

theorem flatten_consToHead (c : Char) (ls : List (List Char)) :
    (consToHead c ls).flatten = c :: ls.flatten := by
  cases ls <;> simp [consToHead]

theorem flatten_lines (cs : List Char) : (lines cs).flatten = cs := by
  induction cs with
  | nil => rfl
  | cons c cs ih =>
    by_cases h : c = '\n' <;> simp [lines, h, ih, flatten_consToHead]

/-- A carriage return or a line feed. -/
def isLineEnd (c : Char) : Bool := c == '\n' || c == '\r'

/-- A line without the carriage returns and line feeds at its end. -/
def chomp (line : List Char) : List Char :=
  (line.reverse.dropWhile isLineEnd).reverse

end WorkItems.Text
