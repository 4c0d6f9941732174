import TemplateLint.Json5.Meaning
import TemplateLint.Lint.Interpreter
import TemplateLint.Lint.Package
import TemplateLint.Options

/-!
# Configuration files

The options in one configuration file of a directory, or in a field of its manifest.  A
file whose name ends like that of a script is evaluated with node; all other files hold
JSON5.  Either way the configuration is an object.
-/

namespace TemplateLint

namespace ConfigFile

/-- The names of configuration files, in the order in which they are tried. -/
def names : List String :=
  [".pug-lintrc", ".pug-lintrc.js", ".pug-lintrc.json", ".pug-lint.json", ".jade-lintrc",
    ".jade-lint.json"]

/-- The names of all files that may hold a configuration. -/
def isName (name : String) : Bool := name = Package.manifestName || names.contains name

/-- The script that writes what the file at a path evaluates to. -/
def evaluationScript : String := "\n".intercalate ["",
    "const config = require(process.argv[1]);",
    "process.stdout.write(JSON.stringify(config === undefined ? null : config));",
    ""]

/-- The ending of the names of scripts. -/
def scriptEnding : String := ".js"

/-- Whether a name is that of a script. -/
def isScript (name : String) : Bool := scriptEnding.toList.isSuffixOf name.toList

/-- The options that a value in a file denotes. -/
def optionsOf (path : Path) (value : Json.Value) : Except Failure Options :=
  match Options.ofValue? value with
  | some options => .ok options
  | none => .error (.configFault path .notObject)

/-- The text of a file that may be absent. -/
def read (path : Path) : Program (Except Failure String) := do
  match ← readText path with
  | .ok text => return .ok text
  | .error fault =>
    if fault = .notFound then return .error (.configNotFound path)
    else return .error (.file path fault)

/-- The options that a text in a file denotes. -/
def parse (path : Path) (text : String) : Except Failure Options :=
  match Json5.parse text with
  | .ok value => optionsOf path value
  | .error fault => .error (.configFault path (.json5 fault))

/-- The options that the output of an evaluated file denotes. -/
def parseOutput (path : Path) (output : String) : Except Failure Options :=
  match Json.parse output with
  | .ok value => optionsOf path value
  | .error fault => .error (.configFault path (.json fault))

/-- The options in a script. -/
def evaluate (interpreter : Option Interpreter) (directory path : Path) :
    Program (Except Failure Options) := do
  if ← exists? path then
    match interpreter with
    | none => return .error (.configFault path .needsNode)
    | some i =>
      match ← i.run evaluationScript [path] none directory with
      | .ok output => return parseOutput path output
      | .error failure => return .error (.configFault path (.worded failure.message))
  else return .error (.configNotFound path)

/-- The options in the file of a name in a directory. -/
def load (interpreter : Option Interpreter) (directory : Path) (name : String) :
    Program (Except Failure Options) := do
  let path := directory.child name
  if isScript name then evaluate interpreter directory path
  else
    match ← read path with
    | .ok text => return parse path text
    | .error failure => return .error failure

/-- The options in a manifest, unless it has none of the fields that may hold them. -/
def optionsOfManifest (path : Path) (manifest : Json.Value) : Except Failure (Option Options) :=
  match Package.manifestFields.findSome? manifest.member? with
  | some value => (optionsOf path value).map some
  | none => .ok none

/-- The options in the manifest of a directory, if it has any. -/
def loadManifest (directory : Path) : Program (Except Failure (Option Options)) := do
  let path := directory.child Package.manifestName
  match ← read path with
  | .error failure => return .error failure
  | .ok text =>
    match Json.parse text with
    | .error fault => return .error (.configFault path (.json fault))
    | .ok manifest => return optionsOfManifest path manifest

end ConfigFile

end TemplateLint
