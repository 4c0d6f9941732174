import TemplateLint.Json.Fault
import TemplateLint.Json5.Fault
import TemplateLint.System.OsFault
import TemplateLint.System.Path
import TemplateLint.Text.Blank

/-!
# Failures

The causes for which a configuration is not read, a package is not found or a template
is not checked, and the wording of each.
-/

namespace TemplateLint

/-- A cause for which a file is no configuration. -/
inductive ConfigFault where
  | json (fault : Json.Fault)
  | json5 (fault : Json5.Fault)
  | notObject
  | needsNode
  | worded (message : String)
deriving DecidableEq

/-- The wording of the cause for which a file is no configuration. -/
def ConfigFault.message : ConfigFault → String
  | json fault => fault.message
  | json5 fault => fault.message
  | notObject => "configuration must be a JSON object"
  | needsNode => "node is required to evaluate JavaScript config files"
  | worded message => message

/-- A cause for which an executable is not found. -/
inductive SearchFault where
  | notFound
  | nowhereToSearch
deriving DecidableEq

/-- The wording of the cause for which an executable is not found. -/
def SearchFault.message : SearchFault → String
  | notFound => "cannot find binary path"
  | nowhereToSearch => "no path to search and provided name is not an absolute path"

/-- A cause for which the linter cannot be used that lies in its installation. -/
inductive SetupFault where
  | noNode (fault : SearchFault)
  | notInstallation (root entry : Path)
  | worded (message : String)
deriving DecidableEq

/-- The wording of a cause that lies in the installation. -/
def SetupFault.message : SetupFault → String
  | noNode fault => "node not found in PATH: " ++ fault.message
  | notInstallation root entry =>
    root.toText ++ " does not look like a pug-lint installation (missing " ++ entry.toText ++ ")"
  | worded message => message

/-- A failure. -/
inductive Failure where
  | configNotFound (path : Path)
  | configFault (path : Path) (fault : ConfigFault)
  | packageNotFound (package : String) (start : Path)
  | linter (message : String)
  | unknown
  | file (path : Path) (fault : OsFault)
  | setup (fault : SetupFault)
deriving DecidableEq

namespace Failure

/-- The failure of a linter that says the given text: unknown if the text is blank. -/
def ofLinter (message : String) : Failure :=
  if Text.isBlankText message then unknown else linter message

/-- The wording of a failure. -/
def message : Failure → String
  | configNotFound path => "Config file not found: " ++ path.toText
  | configFault path fault =>
    "Failed to parse config file '" ++ path.toText ++ "': " ++ fault.message
  | packageNotFound package start =>
    "Module '" ++ package ++ "' not found from '" ++ start.toText ++ "'"
  | linter message => message
  | unknown => "Unknown linter failure"
  | file path fault => "IO error for path '" ++ path.toText ++ "': " ++ fault.message
  | setup fault => "Internal error: " ++ fault.message

/-- The failures after which other sources and documents are still worked on. -/
def isRecoverable : Failure → Bool
  | setup _ => false
  | _ => true

/-- A result, or nothing in the place of a failure. -/
def toOption : Except Failure α → Option α
  | .ok a => some a
  | .error _ => none

end Failure

end TemplateLint
