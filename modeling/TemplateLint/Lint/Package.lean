import TemplateLint.Json.Reader
import TemplateLint.System.Environment

/-!
# Installed packages

Where a package is installed.  A directory is the root of a package if it has a manifest
that names the package.  The roots are looked for in the package directories of the start
directory and its ancestors, then in the package directories of the environment, and
last beside the executable of the package's name.  Also here: the evidence in a directory
that the linter is to be used in it.
-/

namespace TemplateLint

/-- How a package was found: in a project, in a directory that the environment lists, or
beside its executable. -/
inductive Origin where
  | project
  | listed
  | global
deriving DecidableEq

/-- An installed package. -/
structure Package where
  root : Path
  origin : Origin
deriving DecidableEq

namespace Package

/-- The package of the linter. -/
def linterName : String := "pug-lint"

/-- The directory of the packages of a project. -/
def directoryName : String := "node_modules"

/-- The name of manifests. -/
def manifestName : String := "package.json"

/-- The fields of a manifest that may hold a configuration, in order. -/
def manifestFields : List String := ["pugLintConfig", "jadeLintConfig"]

/-- The manifest at a path. -/
def readManifest (path : Path) : Program (Except Failure Json.Value) := do
  match ← readText path with
  | .error fault => return .error (.file path fault)
  | .ok text =>
    match Json.parse text with
    | .error fault => return .error (.configFault path (.json fault))
    | .ok value => return .ok value

/-- Whether a directory has a manifest with a property. -/
def manifestHolds (directory : Path) (holds : Json.Value → Bool) : Program Bool := do
  let manifest := directory.child manifestName
  if ← isFile manifest then
    match ← readManifest manifest with
    | .ok value => return holds value
    | .error _ => return false
  else return false

/-- Whether a manifest names a package. -/
def names (package : String) (manifest : Json.Value) : Bool :=
  match manifest.member? "name" with
  | some (.text name) => name = package
  | _ => false

/-- Whether a directory is the root of a package. -/
def isRoot (package : String) (directory : Path) : Program Bool :=
  manifestHolds directory (names package)

/-- The first of several directories that is the root of a package. -/
def firstRoot? (package : String) (origin : Origin) (directories : List Path) :
    Program (Option Package) := do
  match ← firstPath? (isRoot package) directories with
  | some root => return some ⟨root, origin⟩
  | none => return none

/-- The directories in which the project of a start directory may have a package. -/
def projectPlaces (package : String) (start : Path) : List Path :=
  start.ancestors.map fun directory => (directory.child directoryName).child package

/-- The directories in which the environment may have a package. -/
def listedPlaces (package : String) (directories : Option (List Path)) : List Path :=
  (directories.getD []).map fun directory => directory.child package

/-- The directories beside an executable in which its package may be. -/
def placesBeside (package : String) (executable : Path) : Option (List Path) := do
  let directory ← executable.parent?
  let outer ← directory.parent?
  return [(directory.child directoryName).child package,
    ((outer.child "lib").child directoryName).child package]

/-- The package around or beside its executable. -/
def locateGlobal (e : Environment) (package : String) : Program (Option Package) := do
  match ← e.findExecutable package with
  | .error _ => return none
  | .ok executable =>
    let around : List Path :=
      match ← Program.request (.canonical executable) with
      | .ok target => target.ancestors.drop 1
      | .error _ => []
    match ← firstRoot? package .global around with
    | some found => return some found
    | none =>
      match placesBeside package executable with
      | some places => firstRoot? package .global places
      | none => return none

/-- How packages are looked for: in the environment too, or only in the project. -/
structure Locator where
  environment : Environment
  searchGlobal : Bool

/-- The package that is found from a start directory. -/
def Locator.locate (l : Locator) (package : String) (start : Path) :
    Program (Option Package) := do
  match ← firstRoot? package .project (projectPlaces package start) with
  | some found => return some found
  | none =>
    if l.searchGlobal then
      match ← firstRoot? package .listed (listedPlaces package l.environment.packages) with
      | some found => return some found
      | none => locateGlobal l.environment package
    else return none

/-- The package that is found from a start directory, or the failure of finding none. -/
def Locator.require (l : Locator) (package : String) (start : Path) :
    Program (Except Failure Package) := do
  match ← l.locate package start with
  | some found => return .ok found
  | none => return .error (.packageNotFound package start)

/-! ### Evidence of use -/

/-- The endings of the names of configuration files. -/
def configEndings : List String :=
  [".pug-lintrc", ".pug-lintrc.js", ".pug-lintrc.json", ".pug-lint.json", ".jade-lintrc",
    ".jade-lintrc.js", ".jade-lintrc.json", ".jade-lint.json"]

/-- Whether the name of a directory entry ends like that of a configuration file. -/
def endsLikeConfig (name : Name) : Bool :=
  let text := (Text.decodeLossy name).toList
  configEndings.any fun ending => ending.toList.isSuffixOf text

/-- Whether a manifest has a field that may hold a configuration. -/
def hasConfigField (manifest : Json.Value) : Bool :=
  manifestFields.any fun field => (manifest.member? field).isSome

/-- Whether a directory shows that the linter is to be used in it. -/
def hasConfig (root : Path) : Program Bool := do
  let entries : List Name :=
    match ← Program.request (.names root) with
    | .ok entries => entries
    | .error _ => []
  if entries.any endsLikeConfig then return true
  else manifestHolds root hasConfigField

end Package

end TemplateLint
