import WorkItems.FrontMatter.Printer
import WorkItems.Yaml.Record
/-!
# Reading a front matter

`split` cuts a document at its delimiter lines, and `readItem` reads the block between them. The
block is read twice: as data for the configurable fields, and as a record of texts for the five
fields of the item, which keep the characters of their scalars.
-/

namespace WorkItems.FrontMatter

/-- Why a document has no work item. -/
inductive Error where
  /-- The first line with text is not a delimiter. -/
  | notOpened
  /-- There is no line with text. -/
  | missing
  | unclosed
  | malformed (cause : Yaml.Error)
  /-- The block is data of another type than a mapping. -/
  | notMapping (typeName : String)
  /-- One of the five fields is not a scalar. -/
  | notScalar (cause : Yaml.Error)
deriving DecidableEq, Repr

def Error.message : Error → String
  | notOpened => "missing front matter: first line is not '---'"
  | missing => "missing front matter"
  | unclosed => "unterminated front matter: no closing '---'"
  | malformed cause => "malformed YAML: " ++ cause.message
  | notMapping typeName => "front matter must be a mapping, found " ++ typeName
  | notScalar cause => "hardcoded fields must be scalars: " ++ cause.message

/-! ## Cutting a document -/

/-- A line that is a delimiter once the carriage returns and line feeds at its end are gone. -/
def isDelimiterLine (line : List Char) : Bool := Text.chomp line == delimiter.toList

/-- The lines behind the opening delimiter, which only blank lines may precede. -/
def afterOpening : List (List Char) → Except Error (List (List Char))
  | [] => .error .missing
  | line :: rest =>
    if (Text.chomp line).all Text.isBlank then afterOpening rest
    else if isDelimiterLine line then .ok rest
    else .error .notOpened

/-- The lines before the closing delimiter, and those behind it. -/
def upToClosing : List (List Char) → Except Error (List (List Char) × List (List Char))
  | [] => .error .unclosed
  | line :: rest =>
    if isDelimiterLine line then .ok ([], rest)
    else do
      let (block, body) ← upToClosing rest
      .ok (line :: block, body)

/-- The block of a document between its delimiters, and the body behind them. -/
def split (raw : String) : Except Error (String × String) := do
  let lines ← afterOpening (Text.lines raw.toList)
  let (block, body) ← upToClosing lines
  .ok (String.ofList block.flatten, String.ofList body.flatten)

/-! ## Data as values -/

mutual

/-- Data as a value: tags are dropped, and keys become texts. -/
def ofData : Yaml.Data → Value
  | .null => .null
  | .bool b => .bool b
  | .number n => .number n
  | .string s => .string s
  | .sequence items => .sequence (ofDataItems items)
  | .mapping entries => .mapping (Entries.ofList (ofDataEntries entries))
  | .tagged _ content => ofData content

def ofDataItems : List Yaml.Data → List Value
  | [] => []
  | d :: ds => ofData d :: ofDataItems ds

/-- The entries of a mapping under the texts of their keys. -/
def ofDataEntries : List (Yaml.Data × Yaml.Data) → List (String × Value)
  | [] => []
  | (k, v) :: es => ((ofData k).display, ofData v) :: ofDataEntries es

end

/-! ## Items -/

/-- The texts of the five fields, as they are written in the block. -/
def readCore (block : String) : Except Yaml.Error (CoreField → String) :=
  Yaml.readText block fun root => do
    let record ← root.record (CoreField.all.map CoreField.name)
    let texts ← CoreField.all.mapM fun field => do
      let text ← record.optional field.name Yaml.Node.text
      pure (field, text.getD "")
    pure fun field => (texts.find? (·.1 == field)).elim "" (·.2)

/-- The configurable fields among the entries of a block. -/
def configurable (entries : List (String × Value)) : Dict Value :=
  Dict.ofList (entries.filter fun (name, _) => !isCoreName name)

/-- The item that a block describes. -/
def readItem (block : String) : Except Error Item :=
  if Text.isBlankText block then .ok .empty
  else match Yaml.Data.ofText block with
    | .error e => .error (.malformed e)
    | .ok .null => .ok .empty
    | .ok (.mapping entries) =>
      match readCore block with
      | .error e => .error (.notScalar e)
      | .ok core => .ok {
          id := core .id
          title := core .title
          status := core .status
          kind := core .kind
          created := core .created
          fields := configurable (ofDataEntries entries) }
    | .ok other => .error (.notMapping (ofData other).typeName)

end WorkItems.FrontMatter

namespace WorkItems

/-- A work item and the text below its front matter. -/
structure Document where
  item : Item
  body : String
deriving Inhabited

namespace Document

protected def beq (a b : Document) : Bool := a.item == b.item && a.body == b.body

instance : BEq Document := ⟨Document.beq⟩

def ofText (raw : String) : Except FrontMatter.Error Document := do
  let (block, body) ← FrontMatter.split raw
  let item ← FrontMatter.readItem block
  .ok ⟨item, body⟩

def render (d : Document) : String := FrontMatter.render d.item d.body

end Document
end WorkItems
