/-!
# Types of configurable fields
-/

namespace WorkItems

inductive FieldType where
  | string
  | date
  | email
  | url
  | number
  | array
  | enumeration
deriving DecidableEq, Repr, Inhabited

namespace FieldType

def all : List FieldType := [string, date, email, url, number, array, enumeration]

def name : FieldType → String
  | string => "string"
  | date => "date"
  | email => "email"
  | url => "url"
  | number => "number"
  | array => "array"
  | enumeration => "enum"

def ofName? (s : String) : Option FieldType := all.find? (·.name == s)

theorem ofName?_name (t : FieldType) : ofName? t.name = some t := by cases t <;> decide

/-- Whether the elements of an array may have the type. -/
def isItemType : FieldType → Bool
  | string | number | enumeration => true
  | date | email | url | array => false

end FieldType
end WorkItems
