import CasefileHub.Error
/-!
# Files

Where declarations, patterns and settings are kept: the text at a path, or why there is none.
-/

namespace CasefileHub

/-- Why a file cannot be read. -/
inductive FileFault where
  | absent
  | directory
  | other (text : String)
deriving DecidableEq, Repr

def FileFault.message : FileFault → String
  | .absent => "No such file or directory (os error 2)"
  | .directory => "Is a directory (os error 21)"
  | .other text => text

/-- The text at each path. -/
abbrev Files := String → Except FileFault String

namespace Files

/-- No file at all. -/
def none : Files := fun _ => .error .absent

def read (files : Files) (path : String) : Except HubError String :=
  match files path with
  | .ok text => .ok text
  | .error fault => .error (.io fault.message)

end Files

end CasefileHub
