import TemplateLint.Command.Report
import TemplateLint.Command.Templates
import TemplateLint.Config.Resolution
import TemplateLint.Lint.Bridge
import TemplateLint.Session.Handlers

/-!
# Commands

What the commands of the program do: checking templates, and showing the configuration
that applies to a path.  A command ends with an exit code and with what it has written, or it
breaks off.
-/

namespace TemplateLint.Command

/-- The end of a command. -/
structure Output where
  code : Nat
  out : String
  err : String
deriving DecidableEq

/-- A cause for which a command is given up. -/
inductive GivenUp where
  | noWorkingDirectory (fault : OsFault)
  | invalidPath (invalid : InvalidPath)
  | notInstalled (failure : Failure)
  | notLoaded (failure : Failure)
  | unreadable (path : Path) (fault : OsFault)
  | unwritable

/-- How the linter is installed. -/
def installHint : String :=
  "install it in the project with \x60npm i pug-lint\x60 or globally with \x60npm i -g pug-lint\x60"

/-- The wording of a cause for which a command is given up. -/
def GivenUp.message : GivenUp → String
  | noWorkingDirectory fault => "Failed to resolve current directory: " ++ fault.message
  | invalidPath invalid =>
    "Invalid path: " ++ invalid.path.toText ++ ": " ++ invalid.fault.message
  | notInstalled failure => failure.message ++ "; " ++ installHint
  | notLoaded failure => failure.message
  | unreadable path fault => "Failed to read " ++ path.toText ++ ": " ++ fault.message
  | unwritable => "path contains invalid UTF-8 characters"

/-- The end of a command that is given up, after what it has written about failures. -/
def giveUp (written : String) (cause : GivenUp) : Output :=
  ⟨2, "", written ++ "error: " ++ cause.message ++ "\n"⟩

/-- What commands depend on: the environment, the node executable that is asked for, and
whether packages are looked for outside the project. -/
structure Context where
  environment : Environment
  node : Option Path
  searchGlobal : Bool

namespace Context

/-- The locator of packages. -/
def locator (c : Context) : Package.Locator := ⟨c.environment, c.searchGlobal⟩

/-- The loader of the linter. -/
def load (c : Context) : Loader := Bridge.load c.environment c.node

/-- The resolver of configurations. -/
def resolver (c : Context) : Program Resolver := do
  match ← Interpreter.locate c.environment c.node with
  | .ok interpreter => return ⟨some interpreter, c.environment.home⟩
  | .error _ => return ⟨none, c.environment.home⟩

/-- What a session is built from. -/
def setup (c : Context) : Program Setup := do
  return ⟨c.locator, c.load, ← c.resolver⟩

/-- The root of the workspace, which is the working directory unless a path is given. -/
def workspaceRoot (c : Context) (workspace : Option Path) : Program (Except GivenUp Path) := do
  match (workspace.map Except.ok).getD c.environment.workingDirectory with
  | .ok path => return (← absolute path).mapError .invalidPath
  | .error fault => return .error (.noWorkingDirectory fault)

end Context

/-! ### Checking -/

/-- The outcome of checking templates: the reports, and what is written about failures. -/
structure Checked where
  reports : List FileReport
  failures : String

/-- The checks of templates one after another.  A template that cannot be checked is passed
over; one that cannot be read ends the command. -/
def checkFiles (check : Checker) (resolver : Resolver) (workspace : Path) :
    List Path → Checked → Program (Except Output Checked)
  | [], done => return .ok done
  | file :: rest, done => do
    match ← readText file with
    | .error fault => return .error (giveUp done.failures (.unreadable file fault))
    | .ok text =>
      let resolution ← resolver.resolve workspace (file.parent?.getD workspace) none
      match ← check resolution.options text file with
      | .ok problems =>
        let report : FileReport := ⟨file, problems.map Problem.toDiagnostic⟩
        checkFiles check resolver workspace rest { done with reports := done.reports ++ [report] }
      | .error failure =>
        let line := file.toText ++ ": " ++ failure.message ++ "\n"
        checkFiles check resolver workspace rest { done with failures := done.failures ++ line }

/-- The exit code after checks. -/
def exitCode (checked : Checked) : Nat :=
  if checked.failures ≠ "" then 2 else if 0 < problemCount checked.reports then 1 else 0

/-- The end of checks, with the reports in a form.  The command is given up if they cannot be
written in it. -/
def finish (format : Format) (checked : Checked) : Output :=
  match render format checked.reports with
  | some text => ⟨exitCode checked, text, checked.failures⟩
  | none => giveUp checked.failures .unwritable

/-- The command that checks templates. -/
def check (c : Context) (paths : List Path) (workspace : Option Path) (format : Format) :
    Program Output := do
  match ← c.workspaceRoot workspace with
  | .error cause => return giveUp "" cause
  | .ok root =>
    match ← c.locator.require Package.linterName root with
    | .error failure => return giveUp "" (.notInstalled failure)
    | .ok package =>
      match ← c.load package with
      | .error failure => return giveUp "" (.notLoaded failure)
      | .ok checker =>
        let resolver ← c.resolver
        match ← collect paths with
        | .error invalid => return giveUp "" (.invalidPath invalid)
        | .ok files =>
          match ← checkFiles checker resolver root files ⟨[], ""⟩ with
          | .error output => return output
          | .ok checked => return finish format checked

/-! ### Showing a configuration -/

/-- The written form of a resolution, unless the path of its source is no text. -/
def resolutionValue? (r : Resolution) : Option Json.Value :=
  r.source.toValue?.map fun source => .object [("source", source),
    ("options", r.options.toValue),
    ("warnings", .list (r.warnings.map fun failure => .text failure.message))]

/-- The end of showing a resolution.  There is none, as the program breaks off, if the resolution
has no written form. -/
def shown (r : Resolution) : Option Output :=
  (resolutionValue? r).map fun value => ⟨0, Json.indented value ++ "\n", ""⟩

/-- The directory whose configuration applies to a path. -/
def directoryFor (workspace target : Path) : Program Path := do
  if ← isDirectory target then return target else return target.parent?.getD workspace

/-- The showing of the configuration that applies to a target in a workspace. -/
def showFor (c : Context) (root : Path) : Except InvalidPath Path → Program (Option Output)
  | .error invalid => return giveUp "" (.invalidPath invalid)
  | .ok target => do
    let directory ← directoryFor root target
    let resolution ← (← c.resolver).resolve root directory none
    return shown resolution

/-- The command that shows the configuration that applies to a path, or to the workspace. -/
def showConfig (c : Context) (path workspace : Option Path) : Program (Option Output) := do
  match ← c.workspaceRoot workspace with
  | .error cause => return giveUp "" cause
  | .ok root =>
    match path with
    | some path => showFor c root (← absolute path)
    | none => showFor c root (.ok root)

/-! ### Command lines -/

/-- What is written about the version. -/
def versionText : String := "puglint " ++ version ++ "\n"

/-- What is written about the use of the program. -/
def helpText : String :=
  "pug-lint diagnostics for editors and terminals\n\nUsage: puglint [OPTIONS] [COMMAND]\n"

/-- The end of a command line that is not performed. -/
def stopped : Stop → Output
  | .refused => ⟨2, "", helpText⟩
  | .version => ⟨0, versionText, ""⟩
  | .help => ⟨0, helpText, ""⟩

/-- What a command line leads to: the program of a command, which has no end if it breaks
off, or serving an editor. -/
inductive Action where
  | perform (program : Program (Option Output))
  | serve (context : Context)

/-- The action of a command line in an environment. -/
def action (e : Environment) (arguments : List String) : Action :=
  match Line.parse (e.node.map Path.toText) arguments with
  | .error stop => .perform (pure (some (stopped stop)))
  | .ok line =>
    let context : Context := ⟨e, line.node.map Path.ofText, line.searchGlobal⟩
    match line.verb with
    | .serve => .serve context
    | .check paths workspace format =>
      .perform (some <$> check context (paths.map Path.ofText) (workspace.map Path.ofText) format)
    | .showConfig path workspace =>
      .perform (showConfig context (path.map Path.ofText) (workspace.map Path.ofText))

end TemplateLint.Command
