import WorkItems.Schema
/-!
# Findings about a configuration

What makes a configuration unusable, and what is probably not meant in one that can be used.
-/

namespace WorkItems

inductive Finding where
  | unusable (cause : ConfigError)
  | requiredWithoutEntry (name : String)
  | coreFieldConfigured (name : String)
  | activeStatusWithoutFolder (status : String)
  | unlistedStatus (status : String)
deriving Repr

/-- How bad a finding is. -/
inductive Level where
  | warning
  | error
deriving DecidableEq, Repr

def Level.name : Level → String
  | warning => "warning"
  | error => "error"

namespace Finding

def level : Finding → Level
  | unusable _ => .error
  | _ => .warning

def message : Finding → String
  | unusable cause => cause.message
  | requiredWithoutEntry name =>
    "required field '" ++ name ++ "' has no schema entry; only presence is checked"
  | coreFieldConfigured name =>
    "field '" ++ name ++
      "' is hardcoded; its schema entry is ignored by validation and defaults"
  | activeStatusWithoutFolder status =>
    "active status '" ++ status ++
      "' has no entry in status_folders; the workflow check is disabled"
  | unlistedStatus status =>
    "status folder '" ++ status ++ "' is not listed in validation.status_values"

end Finding

namespace Config

/-- The complaint about a configuration that cannot be used. -/
def unusableFindings (c : Config) : List Finding :=
  match Schema.ofConfig c with
  | .ok _ => []
  | .error e => [.unusable e]

def requiredFindings (c : Config) : List Finding :=
  (c.validation.requiredFields.filter fun name => !isCoreName name && !c.fields.contains name).map
    .requiredWithoutEntry

def coreFieldFindings (c : Config) : List Finding :=
  (c.fields.keys.filter isCoreName).map .coreFieldConfigured

def folderFindings (c : Config) : List Finding :=
  (if c.statusFolders.contains c.activeStatus then []
    else [.activeStatusWithoutFolder c.activeStatus]) ++
  (c.statusFolders.keys.filter (!c.validation.statusValues.contains ·)).map .unlistedStatus

/-- All findings. -/
def findings (c : Config) : List Finding :=
  c.unusableFindings ++ c.requiredFindings ++ c.coreFieldFindings ++ c.folderFindings

end Config
end WorkItems
