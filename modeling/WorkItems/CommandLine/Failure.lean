import WorkItems.Json.Conversion
import WorkItems.Run.Error
/-!
# Why a command fails
-/

namespace WorkItems.CommandLine

/-- What a command was about to do. -/
inductive Task where
  | loadConfig
  | loadPresentConfig
  | writeConfig
  | compileSchema
  | auditItems
  | repairItems
  | renumberItems
  | makeDirectory (path : Path)

def Task.failure : Task → String
  | loadConfig => "failed to load config"
  | loadPresentConfig => "failed to load existing config"
  | writeConfig => "failed to write config.yaml"
  | compileSchema => "invalid schema"
  | auditItems => "failed to validate work items"
  | repairItems => "repair failed"
  | renumberItems => "renumbering failed"
  | makeDirectory path => "failed to create " ++ path.text

inductive Failure where
  | during (task : Task) (cause : RunError)
  /-- The audit has something to report. -/
  | invalidItems (count : Nat)
  /-- The configuration cannot be used. -/
  | unusableConfig
  /-- The configuration has no form in JSON. -/
  | badKey (fault : Json.KeyFault)

namespace Failure

def message : Failure → String
  | during task cause => task.failure ++ ": " ++ cause.message
  | invalidItems count => "validation found " ++ Decimal.natText count ++ " error(s)"
  | unusableConfig => "config validation found errors"
  | badKey fault => fault.message

end Failure
end WorkItems.CommandLine
