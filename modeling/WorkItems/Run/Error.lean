import WorkItems.Audit.ItemFile
import WorkItems.Schema.Error
/-!
# Why a run ends early
-/

namespace WorkItems

inductive RunError where
  /-- The project has no configuration. -/
  | notInitialized
  | unread (path : Path) (cause : ReadError)
  | config (cause : ConfigError)
  /-- A path leads out of the project. -/
  | outsideRoot (path : Path)
  | file (cause : FileError)
deriving Repr

namespace RunError

def message : RunError → String
  | notInitialized => "not initialized: run 'docket init'"
  | unread path cause => "parse error in " ++ path.text ++ ": " ++ cause.message
  | config cause => cause.message
  | outsideRoot path => "path is outside the project root: " ++ path.text
  | file cause => cause.message

/-- Whether no schema can be had, so that nothing can be said about any item. -/
def isFatal : RunError → Bool
  | notInitialized | config _ => true
  | _ => false

end RunError
end WorkItems
