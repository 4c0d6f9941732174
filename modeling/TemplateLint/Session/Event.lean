import TemplateLint.Lint.Bridge
import TemplateLint.Lint.Diagnostic
import TemplateLint.Session.Watcher

/-!
# Events

What a session lets others see: diagnostics that it publishes, messages that it shows or
logs in the editor, the files that it asks the editor to watch, the loading of the linter
and the checks that the linter is asked for.
-/

namespace TemplateLint

/-- The level of a message. -/
inductive Level where
  | error
  | warning
  | info
deriving DecidableEq

/-- The number of a level. -/
def Level.number : Level → Nat
  | error => 1
  | warning => 2
  | info => 3

/-- Something that a session lets others see. -/
inductive Event where
  | published (uri : Uri) (diagnostics : List Diagnostic) (version : Option Int)
  | shown (level : Level) (message : String)
  | logged (level : Level) (message : String)
  | watching (watchers : List Watcher)
  | loading (package : Package)
  | checking (options : Options) (text : String) (path : Path)

end TemplateLint
