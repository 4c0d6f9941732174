import TemplateLint.Json.Printer
import TemplateLint.Lint.Interpreter
import TemplateLint.Lint.Package
import TemplateLint.Lint.Problem
import TemplateLint.Options

/-!
# The linter in node

The linter is a package of scripts.  A check is a run of one script, which loads the
package, reads a request and writes the problems that the linter reports.  Loading the
linter makes sure that its entry file and a node executable exist.
-/

namespace TemplateLint

/-- A check of a text under a path with options. -/
abbrev Checker : Type := Options → String → Path → Program (Except Failure (List Problem))

/-- A way to get a checker from an installed package. -/
abbrev Loader : Type := Package → Program (Except Failure Checker)

namespace Bridge

/-- The script that answers one request. -/
def checkScript : String := "\n".intercalate ["",
    "const path = require('path');",
    "const moduleRoot = process.argv[1];",
    "const chunks = [];",
    "process.stdin.on('data', (chunk) => chunks.push(chunk));",
    "process.stdin.on('end', () => \x7b",
    "  try \x7b",
    "    const request = JSON.parse(Buffer.concat(chunks).toString('utf8'));",
    "    const Linter = require(path.join(moduleRoot, 'lib', 'linter.js'));",
    "    const linter = new Linter();",
    "    linter.configure(request.config);",
    "    const problems = linter.checkString(request.text, request.filename).map((error) => (\x7b",
    "      line: error.line,",
    "      column: error.column,",
    "      code: error.code,",
    "      msg: error.msg,",
    "    \x7d));",
    "    process.stdout.write(JSON.stringify(problems));",
    "  \x7d catch (err) \x7b",
    "    process.stderr.write(err && typeof err.message === 'string' ? err.message : '');",
    "    process.exitCode = 1;",
    "  \x7d",
    "\x7d);",
    ""]

/-- The request for a check. -/
def request (options : Options) (text : String) (path : Path) : Json.Value :=
  .object [("config", options.toValue), ("text", .text text), ("filename", .text path.toText)]

/-- The directory in which a check runs: that of the checked file, if there is one, or
else the root of the package. -/
def workingDirectory (package : Package) (path : Path) : Program Path := do
  match path.parent? with
  | some directory => if ← isDirectory directory then return directory else return package.root
  | none => return package.root

/-- The problems that the linter writes. -/
def problemsOf (output : String) : Except Failure (List Problem) :=
  match Problem.parseList output with
  | .ok problems => .ok problems
  | .error fault => .error (.ofLinter ("Unreadable linter output: " ++ fault.message))

/-- The check by the linter of a package. -/
def check (package : Package) (interpreter : Interpreter) : Checker :=
  fun options text path => do
    let input := Json.compact (request options text path)
    let directory ← workingDirectory package path
    match ← interpreter.run checkScript [package.root] (some input) directory with
    | .ok output => return problemsOf output
    | .error failure => return .error failure

/-- The entry file of the linter. -/
def entry (package : Package) : Path := (package.root.child "lib").child "linter.js"

/-- The loading of the linter, with the node executable that is asked for, if any. -/
def load (e : Environment) (explicit : Option Path) : Loader := fun package => do
  if ← isFile (entry package) then
    match ← Interpreter.locate e explicit with
    | .ok interpreter => return .ok (check package interpreter)
    | .error failure => return .error failure
  else return .error (.setup (.notInstallation package.root (entry package)))

end Bridge

end TemplateLint
