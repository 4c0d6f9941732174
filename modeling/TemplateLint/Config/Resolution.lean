import TemplateLint.Config.File
import TemplateLint.Config.Search

/-!
# Resolution

The options that hold for the documents of a directory, and the source that they come
from.  Options of the editor win over everything else; then come the configuration files
in the directory and the ones above it up to the workspace, then the manifests there,
then the configuration files in the home directory.  Resolution does not fail: a source
that is there but cannot be used is passed over with a warning.
-/

namespace TemplateLint

/-- Where options come from. -/
inductive Source where
  | editor
  | projectFile (path : Path)
  | packageManifest (path : Path)
  | homeFile (path : Path)
  | default
deriving DecidableEq

namespace Source

/-- The name of the kind of a source. -/
def kind : Source → String
  | editor => "editor"
  | projectFile _ => "projectFile"
  | packageManifest _ => "packageManifest"
  | homeFile _ => "homeFile"
  | default => "default"

/-- The path of a source, if it has one. -/
def path? : Source → Option Path
  | projectFile path => some path
  | packageManifest path => some path
  | homeFile path => some path
  | _ => none

/-- The written form of a source, unless its path is no text. -/
def toValue? (s : Source) : Option Json.Value :=
  match s.path? with
  | none => some (.object [("kind", .text s.kind)])
  | some path =>
    path.text?.map fun text => .object [("kind", .text s.kind), ("path", .text text)]

end Source

/-- Options with the source that they come from, and the failures of the sources that
were passed over. -/
structure Resolution where
  options : Options
  source : Source
  warnings : List Failure

/-- What resolution depends on besides the directories: the node executable that
evaluates scripts, and the home directory. -/
structure Resolver where
  interpreter : Option Interpreter
  home : Option Path

namespace Resolver

/-- A list up to and including the first element with a property. -/
def throughFirst (holds : α → Bool) : List α → List α
  | [] => []
  | a :: rest => if holds a then [a] else a :: throughFirst holds rest

/-- The directories that are searched for the options of a directory: the directory and
those above it, up to the workspace if the directory lies in it. -/
def directories (workspace directory : Path) : List Path :=
  let inside := directory.startsWith workspace
  throughFirst (fun d => inside && d.same workspace) directory.ancestors

/-- The search for options in a file of a directory. -/
def inFile (r : Resolver) (source : Path → Source) (directory : Path) (name : String) :
    Program (Found (Options × Source)) :=
  Search.trial do
    match ← ConfigFile.load r.interpreter directory name with
    | .ok options => return .ok (some (options, source (directory.child name)))
    | .error failure => return .error failure

/-- The search for options in the configuration files of a directory. -/
def inFiles (r : Resolver) (source : Path → Source) (directory : Path) :
    Program (Found (Options × Source)) :=
  Search.firstOf (ConfigFile.names.map (r.inFile source directory))

/-- The search for options in the manifest of a directory. -/
def inManifest (directory : Path) : Program (Found (Options × Source)) :=
  Search.trial do
    match ← ConfigFile.loadManifest directory with
    | .ok (some options) =>
      return .ok (some (options, .packageManifest (directory.child Package.manifestName)))
    | .ok none => return .ok none
    | .error failure => return .error failure

/-- The search for options in the home directory. -/
def inHome (r : Resolver) : Program (Found (Options × Source)) :=
  match r.home with
  | some home => r.inFiles .homeFile home
  | none => Search.nothing

/-- The search for options in all files. -/
def search (r : Resolver) (workspace directory : Path) : Program (Found (Options × Source)) :=
  let places := directories workspace directory
  Search.orElse (Search.firstOf (places.map (r.inFiles .projectFile)))
    (Search.orElse (Search.firstOf (places.map inManifest)) r.inHome)

/-- The resolution of what a search for options found. -/
def resolutionOf (workspace : Path) (found : Found (Options × Source)) : Resolution :=
  match found.result with
  | some (options, source) => ⟨options.expandExtends workspace, source, found.warnings⟩
  | none => ⟨Options.empty.expandExtends workspace, .default, found.warnings⟩

/-- The options for the documents of a directory, given options of the editor, if any. -/
def resolve (r : Resolver) (workspace directory : Path) (editor : Option Options) :
    Program Resolution := do
  match editor.filter fun options => !options.isEmpty with
  | some options => return resolutionOf workspace ⟨[], some (options, .editor)⟩
  | none => return resolutionOf workspace (← r.search workspace directory)

end Resolver

end TemplateLint
