import TemplateLint.System.Tree

/-!
# Machines

A machine as a value: a file tree, the working directory of the running program, the
directories in which executables are looked up by name, and what the executables do.
A machine answers every request, so it runs programs.  Its file tree changes by writing
and removing.
-/

namespace TemplateLint

/-- A machine. -/
structure Machine where
  tree : Node
  cwd : Location
  searchPath : List Path
  execute : Location → Invocation → Completion

namespace Machine

/-- The node that a path leads to, links followed. -/
def node (m : Machine) (path : Path) : Except OsFault Node := do
  let location ← m.tree.locate m.cwd true path
  match m.tree.at? location with
  | some node => return node
  | none => throw .notFound

/-- The content of the file that a path leads to, or what comes out of a special node. -/
def read (m : Machine) (path : Path) : Except OsFault (List UInt8) := do
  match ← m.node path with
  | .file content _ => return content
  | .special stream => stream
  | _ => throw .isDirectory

/-- The status of what a path leads to. -/
def status (m : Machine) (path : Path) : Except OsFault Status := do
  match ← m.node path with
  | .file _ executable => return ⟨.file, executable⟩
  | .special _ => return ⟨.special, false⟩
  | _ => return ⟨.directory, true⟩

/-- The names in the directory that a path leads to. -/
def names (m : Machine) (path : Path) : Except OsFault (List Name) := do
  match ← m.node path with
  | .directory entries => return entries.map Prod.fst
  | _ => throw .notDirectory

/-- The absolute path without links to where a path leads. -/
def canonical (m : Machine) (path : Path) : Except OsFault Path := do
  let location ← m.tree.locate m.cwd true path
  return Path.ofNames location

/-- What lies below the node that a path leads to. -/
def outline (m : Machine) (path : Path) : Except OsFault Outline := do
  return (← m.node path).outline

/-- The location of the executable that a path leads to from a working directory. -/
def executable (m : Machine) (cwd : Location) (path : Path) : Except OsFault Location := do
  let location ← m.tree.locate cwd true path
  match m.tree.at? location with
  | some (.file _ true) => return location
  | some _ => throw .denied
  | none => throw .notFound

/-- The location of the first executable among several paths: a path that leads to
nothing is passed over, and so is a file that may not be executed, which is reported if
there is no other one. -/
def firstExecutable (m : Machine) (cwd : Location) : OsFault → List Path →
    Except OsFault Location
  | fault, [] => .error fault
  | fault, path :: rest =>
    match m.executable cwd path with
    | .ok location => .ok location
    | .error other =>
      if other = .denied then m.firstExecutable cwd .denied rest
      else if other = .notFound ∨ other = .notDirectory then m.firstExecutable cwd fault rest
      else .error other

/-- The location of an executable that is written as a path, or by a name alone. -/
def binary (m : Machine) (cwd : Location) (path : Path) : Except OsFault Location :=
  if path.bytes.contains Path.slash then m.executable cwd path
  else if path.bytes = [] then .error .notFound
  else m.firstExecutable cwd .notFound (m.searchPath.map fun directory => directory.join path)

/-- The end of a run. -/
def invoke (m : Machine) (i : Invocation) : Except OsFault Completion := do
  let hasNul (bytes : List UInt8) : Bool := bytes.contains 0
  if hasNul i.binary.bytes || hasNul i.directory.bytes || i.arguments.any hasNul then
    throw .nulInArgument
  let cwd ← m.tree.locate m.cwd true i.directory
  match m.tree.at? cwd with
  | some (.directory _) => return m.execute (← m.binary cwd i.binary) i
  | _ => throw .notDirectory

/-- The answer of a machine to a request. -/
def answer (m : Machine) : (r : Request) → r.Answer
  | .read path => m.read path
  | .status path => m.status path
  | .names path => m.names path
  | .canonical path => m.canonical path
  | .outline path => m.outline path
  | .invoke invocation => m.invoke invocation

/-! ### Changes -/

/-- The tree with directories made along segments from a location, and the location that
the segments lead to. -/
def makeDirectories (tree : Node) : Location → List Name → Node × Location
  | here, [] => (tree, here)
  | here, segment :: rest =>
    match tree.follow true Node.linkLimit here [segment] with
    | .ok next => makeDirectories tree next rest
    | .error _ =>
      let next := here ++ [segment]
      makeDirectories (tree.put next .emptyDirectory) next rest

/-- The machine with a node at a path, and with the directories that lead to it.  A file
is written through a link that stands in its place. -/
def write (m : Machine) (path : Path) (new : Node) : Machine :=
  let start := if path.isAbsolute then [] else m.cwd
  let names := (Path.segments path.bytes).filter fun s => s ≠ []
  let (tree, parent) := makeDirectories m.tree start names.dropLast
  match names.getLast? with
  | none => m
  | some name =>
    let location :=
      match tree.follow true Node.linkLimit parent [name] with
      | .ok location => location
      | .error _ => parent ++ [name]
    let kept :=
      match new, tree.at? location with
      | .directory [], some (.directory entries) => .directory entries
      | _, _ => new
    { m with tree := tree.put location kept }

/-- The machine without what lies at a path; a link itself is removed. -/
def remove (m : Machine) (path : Path) : Machine :=
  match m.tree.locate m.cwd false path with
  | .ok location => { m with tree := m.tree.erase location }
  | .error _ => m

end Machine

end TemplateLint
