import WorkItems.FrontMatter.Quoted
import WorkItems.Item
import WorkItems.Yaml.Data.Printer
/-!
# Writing a front matter

The five fields come first, in their fixed order, and then the configurable fields by name. A
mapping with entries is written in block style below its name, everything else on one line. The
same item is therefore always written the same way.
-/

namespace WorkItems.FrontMatter

/-- The line that opens and closes a front matter. -/
def delimiter : String := "---"

/-! ## Values on one line -/

/-- Floating-point numbers always show a point or an exponent. -/
def numberLayout : Decimal.Layout where
  least := -3
  greatest := some 16
  wholeEnd := ".0".toList
  nan := ".nan"
  infinity := ".inf"
  tie := .greater

def numberText : Number → String
  | .float x => numberLayout.text x
  | n => n.display

mutual

/-- A value on one line. -/
def inline : Value → String
  | .null => "null"
  | .bool b => if b then "true" else "false"
  | .number n => numberText n
  | .string s => fieldText s
  | .sequence items => "[" ++ Value.commaSeparated (inlineItems items) ++ "]"
  | .mapping entries => "\x7b" ++ Value.commaSeparated (inlineEntries entries) ++ "\x7d"

def inlineItems : List Value → List String
  | [] => []
  | v :: vs => inline v :: inlineItems vs

def inlineEntries : List (String × Value) → List String
  | [] => []
  | (k, v) :: es => (fieldText k ++ ": " ++ inline v) :: inlineEntries es

end

/-! ## Values in block style -/

mutual

/-- A value as data. -/
def toData : Value → Yaml.Data
  | .null => .null
  | .bool b => .bool b
  | .number n => .number n
  | .string s => .string s
  | .sequence items => .sequence (toDataItems items)
  | .mapping entries => .mapping (toDataEntries entries)

def toDataItems : List Value → List Yaml.Data
  | [] => []
  | v :: vs => toData v :: toDataItems vs

def toDataEntries : List (String × Value) → List (Yaml.Data × Yaml.Data)
  | [] => []
  | (k, v) :: es => (.string k, toData v) :: toDataEntries es

end

/-- A line, moved two columns to the right. -/
def shiftLine (line : List Char) : List Char := ' ' :: ' ' :: Text.chomp line ++ ['\n']

/-- The lines of a text, moved two columns to the right. -/
def shifted (text : String) : String :=
  String.ofList ((Text.lines text.toList).flatMap shiftLine)

/-! ## Fields -/

/-- The lines of a configurable field. -/
def fieldLines (name : String) (value : Value) : String :=
  match value with
  | .mapping (_ :: _) => fieldText name ++ ":\n" ++ shifted (toData value).render
  | _ => fieldText name ++ ": " ++ inline value ++ "\n"

/-- The line of one of the five fields. -/
def coreLine (item : Item) (field : CoreField) : String :=
  field.name ++ ": " ++ coreText (item.core field) ++ "\n"

/-- The lines between the delimiters. -/
def block (item : Item) : String :=
  String.join (CoreField.all.map (coreLine item)) ++
    String.join (item.fields.entries.map fun (name, value) => fieldLines name value)

/-- A whole document: the front matter of an item, and its body as it is. -/
def render (item : Item) (body : String) : String :=
  delimiter ++ "\n" ++ block item ++ delimiter ++ "\n" ++ body

end WorkItems.FrontMatter
