import WorkItems.Schema.Default
/-!
# What is wrong with a configuration
-/

namespace WorkItems

inductive ConfigError where
  | unknownType (name : String)
  | field (name : String) (fault : FieldFault)
  | badIdFormat (format : String) (cause : Pattern.Error)
  | badDefault (field : String) (fault : DefaultFault)
  /-- The file of the configuration does not hold one. -/
  | unreadable (path : String) (cause : Yaml.Error)
deriving Repr

namespace ConfigError

/-- The cause alone. -/
def reason : ConfigError → String
  | unknownType name => "unknown field type '" ++ name ++ "'"
  | field name fault => "field '" ++ name ++ "': " ++ fault.message
  | badIdFormat format cause => "invalid id_format '" ++ format ++ "': " ++ cause.message
  | badDefault name fault => "invalid default for field '" ++ name ++ "': " ++ fault.message
  | unreadable path cause => path ++ ": " ++ cause.message

def message (e : ConfigError) : String := "invalid configuration: " ++ e.reason

end ConfigError

/-- The type of a name, or the complaint that there is none. -/
def FieldType.ofName (s : String) : Except ConfigError FieldType :=
  match FieldType.ofName? s with
  | some t => .ok t
  | none => .error (.unknownType s)

end WorkItems
