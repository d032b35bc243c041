import CasefileHub.Violation
/-!
# Errors of the hub

What registries, loaders and operations refuse, by cause. `kind` names the cause for machines and
`message` for people.
-/

namespace CasefileHub

/-- The registry that refuses a second entry of one name. -/
inductive RegistryKind where
  | method | tool | model | hook | operation | policy
deriving DecidableEq, Repr

def RegistryKind.text : RegistryKind → String
  | .method => "Method"
  | .tool => "Tool"
  | .model => "Model"
  | .hook => "Hook"
  | .operation => "Operation"
  | .policy => "Policy"

inductive HubError where
  | unsupported (operation : String)
  | conflict (registry : RegistryKind) (name : String)
  | inconsistent (findings : String)
  | invalid (violations : List Violation)
  | execution (kind text : String)
  | config (text : String)
  | yaml (text : String)
  | io (text : String)
deriving DecidableEq, Repr

namespace HubError

def kind : HubError → String
  | .unsupported _ => "protocol_error"
  | .conflict _ _ => "registration_conflict"
  | .inconsistent _ => "consistency_error"
  | .invalid _ => "validation_error"
  | .execution kind _ => kind
  | .config _ => "config_error"
  | .yaml _ => "yaml_error"
  | .io _ => "io_error"

def message : HubError → String
  | .unsupported operation => "Unsupported operation: " ++ operation
  | .conflict registry name => registry.text ++ " already registered: " ++ name
  | .inconsistent findings => "Consistency error: " ++ findings
  | .invalid violations => Violation.summary violations
  | .execution kind text => "Execution error (" ++ kind ++ "): " ++ text
  | .config text => "Configuration error: " ++ text
  | .yaml text => "YAML error: " ++ text
  | .io text => "IO error: " ++ text

end HubError

end CasefileHub
