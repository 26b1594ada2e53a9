import WorkItems.Json
import WorkItems.Yaml.Data
/-!
# YAML data as JSON

Keys of JSON objects are texts, so a key that is a number or a truth value becomes its text, and no
other key can be converted. Tagged data becomes an object whose one key is the tag.
-/

namespace WorkItems.Json

/-- Why a key has no text. -/
inductive KeyFault where
  | notText
  | notFinite
deriving DecidableEq, Repr

def KeyFault.message : KeyFault → String
  | notText => "key must be a string"
  | notFinite => "float key must be finite"

def keyText : Yaml.Data → Except KeyFault String
  | .string s => .ok s
  | .bool b => .ok (if b then "true" else "false")
  | .number (.float x) =>
    if Decimal.isNaN x || Decimal.isInfinite x then .error .notFinite
    else .ok (numberText (.float x))
  | .number n => .ok (numberText n)
  | .null | .sequence _ | .mapping _ | .tagged _ _ => .error .notText

namespace Data

mutual

def ofYaml : Yaml.Data → Except KeyFault Data
  | .null => .ok null
  | .bool b => .ok (bool b)
  | .number n => .ok (number n)
  | .string s => .ok (string s)
  | .sequence items => (ofYamlItems items).map array
  | .mapping entries => (ofYamlEntries entries).map object
  | .tagged tag content =>
    (ofYaml content).map fun d => object [("!" ++ tag, d)]

def ofYamlItems : List Yaml.Data → Except KeyFault (List Data)
  | [] => .ok []
  | d :: ds => do
    let item ← ofYaml d
    let items ← ofYamlItems ds
    .ok (item :: items)

def ofYamlEntries : List (Yaml.Data × Yaml.Data) → Except KeyFault (List (String × Data))
  | [] => .ok []
  | (k, v) :: es => do
    let key ← keyText k
    let value ← ofYaml v
    let members ← ofYamlEntries es
    .ok ((key, value) :: members)

end

end Data
end WorkItems.Json
