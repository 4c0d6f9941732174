import TemplateLint.Failure
import TemplateLint.System.Program

/-!
# The environment

What a program is told when it is started, and the search for executables in it.  A
name alone is looked for in the directories of the search path, in order; anything
longer is a path from the working directory, if that can be told.
-/

namespace TemplateLint

/-- The environment of a program: the working directory, unless it cannot be told, the home
directory, the directories with executables, the directories with packages, and the node
executable that is to be used. -/
structure Environment where
  workingDirectory : Except OsFault Path
  home : Option Path
  executables : Option (List Path)
  packages : Option (List Path)
  node : Option Path

namespace Path

/-- The separator of paths in a list. -/
def listSeparator : UInt8 := 58

/-- The paths in a list. -/
def splitList (bytes : List UInt8) : List Path := (bytes.splitOn listSeparator).map Path.mk

/-- The path with a component added to it. -/
def push (p : Path) : Component → Path
  | .root => rootDirectory
  | .current => p.join here
  | .parent => p.join ⟨[dot, dot]⟩
  | .name name => p.join ⟨name⟩

/-- The path within a working directory. -/
def fromDirectory (directory p : Path) : Path :=
  if p.isAbsolute then p
  else (p.components.dropWhile fun c => c = .current).foldl push directory

/-- The path with the home directory in the place of a tilde that is its first
component. -/
def expandHome (home : Option Path) (p : Path) : Path :=
  match p.components with
  | .name [126] :: rest => rest.foldl push (home.getD empty)
  | _ => p

end Path

/-- Whether a path leads to a file that may be executed. -/
def isExecutable (path : Path) : Program Bool := do
  match ← Program.request (.status path) with
  | .ok status => return status.kind = .file && status.executable
  | .error _ => return false

/-- The first of several paths that has a property. -/
def firstPath? (holds : Path → Program Bool) : List Path → Program (Option Path)
  | [] => return none
  | path :: rest => do
    if ← holds path then return some path else firstPath? holds rest

namespace Environment

/-- A path to the working directory, which is written relative to itself if it cannot be
told. -/
def cwd (e : Environment) : Path :=
  match e.workingDirectory with
  | .ok directory => directory
  | .error _ => Path.here

/-- A path within the working directory, or as it is written if that cannot be told. -/
def within (e : Environment) (path : Path) : Path :=
  match e.workingDirectory with
  | .ok directory => Path.fromDirectory directory path
  | .error _ => path

/-- The paths at which an executable may be. -/
def executablePaths (e : Environment) (name : String) : Except SearchFault (List Path) :=
  let path := Path.ofText name
  if e.workingDirectory.isOk ∧ 1 < path.components.length then .ok [e.within path]
  else
    match e.executables with
    | some directories =>
      .ok (directories.map fun directory => e.within ((directory.expandHome e.home).join path))
    | none => .error .nowhereToSearch

/-- The path of an executable. -/
def findExecutable (e : Environment) (name : String) : Program (Except SearchFault Path) := do
  match e.executablePaths name with
  | .error fault => return .error fault
  | .ok paths =>
    match ← firstPath? isExecutable paths with
    | some path => return .ok path
    | none => return .error .notFound

end Environment

end TemplateLint
