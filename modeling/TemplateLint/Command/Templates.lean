import TemplateLint.Document.Template
import TemplateLint.System.Program

/-!
# Collecting templates

The templates that paths name.  A file is taken as it is; a directory stands for the
templates below it, except those in directories of packages and in hidden directories.
The templates come in the order of their paths, each one once.
-/

namespace TemplateLint.Command

/-- Whether what has a name below a directory is passed over, with all that is below it. -/
def isSkipped (name : Name) : Bool :=
  let text := (Text.decodeLossy name).toList
  text = "node_modules".toList || text.head? = some '.'

mutual

/-- The templates at a path with something below it. -/
def templatesAt (path : Path) : Outline → List Path
  | .file => if Template.isPath path then [path] else []
  | .link => []
  | .special => []
  | .directory entries => templatesBelow path entries

/-- The templates at the entries of a directory. -/
def templatesBelow (directory : Path) : List (Name × Outline) → List Path
  | [] => []
  | (name, inner) :: rest =>
    (if isSkipped name then [] else templatesAt (directory.join ⟨name⟩) inner)
      ++ templatesBelow directory rest

end

/-- The templates below a directory. -/
def templatesIn (directory : Path) : Outline → List Path
  | .directory entries => templatesBelow directory entries
  | _ => []

/-- A list without the elements that are the same as the one before them. -/
def dropRepeats : List Path → List Path
  | [] => []
  | [p] => [p]
  | p :: q :: rest => if p.same q then dropRepeats (p :: rest) else p :: dropRepeats (q :: rest)

/-- The paths in order, each one once. -/
def sorted (paths : List Path) : List Path :=
  dropRepeats (paths.mergeSort fun p q => (p.compare q).isLE)

/-- The templates that an absolute path without links names. -/
def templatesOf (root : Path) : Program (List Path) := do
  if ← isFile root then return [root]
  else
    match ← Program.request (.outline root) with
    | .ok outline => return templatesIn root outline
    | .error _ => return []

/-- A path that leads to nothing, with the fault. -/
structure InvalidPath where
  path : Path
  fault : OsFault

/-- The absolute path without links to where a path leads. -/
def absolute (path : Path) : Program (Except InvalidPath Path) := do
  match ← Program.request (.canonical path) with
  | .ok target => return .ok target
  | .error fault => return .error ⟨path, fault⟩

/-- The templates that paths name, in no order. -/
def gather : List Path → Program (Except InvalidPath (List Path))
  | [] => return .ok []
  | path :: rest => do
    match ← absolute path with
    | .error e => return .error e
    | .ok root =>
      let first ← templatesOf root
      match ← gather rest with
      | .error e => return .error e
      | .ok others => return .ok (first ++ others)

/-- The templates that paths name; no path stands for the working directory. -/
def collect (paths : List Path) : Program (Except InvalidPath (List Path)) := do
  let roots := if paths = [] then [Path.here] else paths
  return (← gather roots).map sorted

end TemplateLint.Command
