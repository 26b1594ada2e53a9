import WorkItems.Text.Blank
import WorkItems.Yaml.Data
/-!
# Texts in a front matter

A text is written as it is where it reads back so, and otherwise between double quotes. What counts
as reading back differs: the five fields of an item are read as the text of their scalar, so that
`007` needs no quotes, while a configurable field is read as data and would become a number.
-/

namespace WorkItems.FrontMatter

/-! ## Double quotes -/

def hexChar (d : Nat) : Char := Char.ofNat (if d < 10 then 48 + d else 87 + d)

/-- A character between double quotes. Control characters are escaped by their two hex digits. -/
def escapeChar (c : Char) : List Char :=
  if c = '\\' then ['\\', '\\']
  else if c = '"' then ['\\', '"']
  else if c = '\n' then ['\\', 'n']
  else if c = '\r' then ['\\', 'r']
  else if c = '\t' then ['\\', 't']
  else if Text.isControl c then ['\\', 'x', hexChar (c.toNat / 16), hexChar (c.toNat % 16)]
  else [c]

def escape (cs : List Char) : List Char := cs.flatMap escapeChar

def doubleQuoted (s : String) : String := String.ofList ('"' :: escape s.toList ++ ['"'])

/-! ## When quotes are needed -/

/-- Characters that force quotes anywhere in a text. -/
def significant : List Char := ":#[]\x7b\x7d,\"'\\\n\r\t&*!|>%".toList

/-- Characters that force quotes at the start of a text. -/
def leadingIndicators : List Char := "-?@\x60".toList

/-- Whether a text needs quotes for its characters alone. -/
def needsQuotes (s : String) : Bool :=
  let cs := s.toList
  cs.isEmpty || Text.trim cs != cs || cs.any significant.contains ||
    cs.head?.any leadingIndicators.contains

/-- A text that is one of the five fields. Spellings of null would read as a missing field. -/
def coreText (s : String) : String :=
  if needsQuotes s || Yaml.isNullText s.toList then doubleQuoted s else s

/-- Whether a whole text, read as data, is itself. -/
def readsAsItself (s : String) : Bool :=
  match Yaml.Data.ofText s with
  | .ok (.string t) => t == s
  | _ => false

/-- A text that is the name of a configurable field or a string inside of its value. -/
def fieldText (s : String) : String :=
  if needsQuotes s || !readsAsItself s then doubleQuoted s else s

end WorkItems.FrontMatter
