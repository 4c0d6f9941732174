import TemplateLint.System.Program

/-!
# File trees

A file system as a tree of files, links, directories and special nodes, and the paths in
it.  A location is the list of names that leads from the root to a node without passing
through a link.  Following a path from a location walks its segments one by one: the
name of a link is replaced by the segments of its target, and a path that leads through
more than forty links is refused.
-/

namespace TemplateLint

/-- A node of a file tree.  A special node is a pipe, a socket or a device; reading from it
gives what comes out of it, or fails. -/
inductive Node where
  | file (content : List UInt8) (executable : Bool)
  | link (target : Path)
  | special (stream : Except OsFault (List UInt8))
  | directory (entries : List (Name × Node))
deriving Inhabited

/-- The names that lead from the root to a node. -/
abbrev Location : Type := List Name

namespace Node

/-- The directory without entries. -/
def emptyDirectory : Node := directory []

/-- The entry of a directory under a name. -/
def entry? : Node → Name → Option Node
  | directory entries, name => entries.lookup name
  | _, _ => none

/-- The node at a location. -/
def at? : Node → Location → Option Node
  | node, [] => some node
  | node, name :: rest => node.entry? name >>= fun inner => inner.at? rest

/-- Entries with a node under a name, in the place of the one that was there or at the
end. -/
def setEntry : List (Name × Node) → Name → Node → List (Name × Node)
  | [], name, node => [(name, node)]
  | (n, old) :: rest, name, node =>
    if n = name then (n, node) :: rest else (n, old) :: setEntry rest name node

/-- The tree with a node at a location, where the directories on the way to it exist. -/
def put : Node → Location → Node → Node
  | _, [], new => new
  | directory entries, name :: rest, new =>
    let inner := (entries.lookup name).getD emptyDirectory
    directory (setEntry entries name (inner.put rest new))
  | other, _ :: _, _ => other

/-- The tree without the node at a location. -/
def erase : Node → Location → Node
  | directory entries, [name] => directory (entries.filter fun e => e.1 ≠ name)
  | directory entries, name :: rest =>
    match entries.lookup name with
    | some inner => directory (setEntry entries name (inner.erase rest))
    | none => directory entries
  | other, _ => other

mutual

/-- What lies at a node, contents left out. -/
def outline : Node → Outline
  | file _ _ => .file
  | link _ => .link
  | special _ => .special
  | directory entries => .directory (outlines entries)

/-- What lies at the nodes of entries. -/
def outlines : List (Name × Node) → List (Name × Outline)
  | [] => []
  | (name, node) :: rest => (name, node.outline) :: outlines rest

end

/-! ### Following paths -/

/-- The greatest number of links on a path. -/
def linkLimit : Nat := 40

/-- The greatest length of a name. -/
def nameLimit : Nat := 255

/-- The least length of a path that is too long. -/
def pathLimit : Nat := 4096

/-- The location that segments lead to from a location, with a number of links left to
follow; a link under the last segment is followed only on demand. -/
def follow (tree : Node) (last : Bool) : Nat → Location → List Name → Except OsFault Location
  | _, here, [] => .ok here
  | links, here, segment :: rest =>
    match tree.at? here with
    | some (directory entries) =>
      if segment = [] ∨ segment = [Path.dot] then follow tree last links here rest
      else if segment = [Path.dot, Path.dot] then follow tree last links here.dropLast rest
      else if nameLimit < segment.length then .error .nameTooLong
      else
        match entries.lookup segment with
        | none => .error .notFound
        | some (link target) =>
          if rest = [] ∧ !last then .ok (here ++ [segment])
          else
            match links with
            | 0 => .error .tooManyLinks
            | left + 1 =>
              if target.bytes = [] then .error .notFound
              else
                let start := if target.isAbsolute then [] else here
                follow tree last left start (Path.segments target.bytes ++ rest)
        | some _ => follow tree last links (here ++ [segment]) rest
    | _ => .error .notDirectory
termination_by links _ segments => (links, segments.length)

/-- The location that a path leads to from a working directory. -/
def locate (tree : Node) (cwd : Location) (last : Bool) (path : Path) :
    Except OsFault Location :=
  if path.bytes.contains 0 then .error .nulInPath
  else if pathLimit ≤ path.bytes.length then .error .nameTooLong
  else if path.bytes = [] then .error .notFound
  else
    follow tree last linkLimit (if path.isAbsolute then [] else cwd)
      (Path.segments path.bytes)

end Node

end TemplateLint
