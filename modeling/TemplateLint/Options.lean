import TemplateLint.Json.Value
import TemplateLint.System.Path

/-!
# Linter options

The options of the linter: the members of a JSON object, in order, of which the linter
itself knows the meaning.  Only `extends` is looked at: a bare preset name under it is
expanded to the path of the preset in the packages of the workspace.  An expanded name
contains a separator, so expansion happens once.
-/

namespace TemplateLint

/-- The options of the linter. -/
structure Options where
  members : Json.Members
deriving Inhabited

namespace Options

/-- No options. -/
def empty : Options := ⟨[]⟩

/-- The options that an object holds. -/
def ofValue? : Json.Value → Option Options
  | .object members => some ⟨members⟩
  | _ => none

/-- The object that holds the options. -/
def toValue (o : Options) : Json.Value := .object o.members

/-- Whether there are no options. -/
def isEmpty (o : Options) : Bool := o.members.isEmpty

/-- The value of an option. -/
def get? (o : Options) (key : String) : Option Json.Value := o.members.get? key

/-- The options with a value for one of them, in its place or at the end. -/
def insert (o : Options) (key : String) (value : Json.Value) : Options :=
  ⟨o.members.insert key value⟩

/-- The preset that is extended, if it is named by a text. -/
def extends? (o : Options) : Option String := (o.get? "extends").bind Json.Value.text?

/-- The start of the package names of presets. -/
def presetStart : String := "pug-lint-config-"

/-- The preset names that are not paths. -/
def isBare (name : String) : Bool :=
  name ≠ "" && !name.toList.contains '/' && !name.toList.contains '\\'

/-- The path of a preset in the packages of a workspace. -/
def presetPath (workspace : Path) (name : String) : Path :=
  ((workspace.child "node_modules").child (presetStart ++ name)).child "index.js"

/-- The options with a bare preset name expanded to the path of the preset. -/
def expandExtends (o : Options) (workspace : Path) : Options :=
  match o.extends? with
  | some name =>
    if isBare name then o.insert "extends" (.text (presetPath workspace name).toText) else o
  | none => o

end Options

end TemplateLint
