import TemplateLint.Text.Utf8

/-!
# Paths

File-system paths as byte sequences, and what is said of them without looking at a
file system.  Repeated separators, interior `.` components and separators at the end
carry no meaning, so paths are compared by their components; but a path keeps the text
in which it was written, and its parent is written as the part of that text which ends
with the last remaining component.
-/

namespace TemplateLint

/-- A path: the bytes in which it is written. -/
structure Path where
  bytes : List UInt8
deriving DecidableEq, Inhabited

/-- The name of a directory entry. -/
abbrev Name : Type := List UInt8

/-- A component of a path. -/
inductive Component where
  | root
  | current
  | parent
  | name (name : Name)
deriving DecidableEq

namespace Path

/-- The separator of components. -/
def slash : UInt8 := 47

/-- The full stop. -/
def dot : UInt8 := 46

/-- The path written as a text. -/
def ofText (s : String) : Path := ⟨Text.encode s⟩

/-- A path as a text, with a replacement for bytes that are none. -/
def toText (p : Path) : String := Text.decodeLossy p.bytes

/-- A path as a text, if it is one. -/
def text? (p : Path) : Option String := Text.decode? p.bytes

/-- The empty path. -/
def empty : Path := ⟨[]⟩

/-- The root directory. -/
def rootDirectory : Path := ⟨[slash]⟩

/-- The path of the current directory. -/
def here : Path := ⟨[dot]⟩

/-- The absolute paths. -/
def isAbsolute (p : Path) : Bool := p.bytes.head? == some slash

/-- The segments of a byte sequence between separators. -/
def segments (bytes : List UInt8) : List Name := bytes.splitOn slash

/-- The lead of a path, which is the root, a current directory that is written first, or
nothing; and the text after it. -/
def splitLead : List UInt8 → List UInt8 × List UInt8
  | [] => ([], [])
  | [b] => if b = slash ∨ b = dot then ([b], []) else ([], [b])
  | b :: c :: rest =>
    if b = slash then ([b], c :: rest)
    else if b = dot ∧ c = slash then ([b], c :: rest)
    else ([], b :: c :: rest)

/-- The component of a segment, unless the segment carries no meaning. -/
def component? (segment : Name) : Option Component :=
  if segment = [] ∨ segment = [dot] then none
  else if segment = [dot, dot] then some .parent
  else some (.name segment)

/-- The components of a path. -/
def components (p : Path) : List Component :=
  let (lead, body) := splitLead p.bytes
  let first : List Component :=
    if lead = [slash] then [.root] else if lead = [dot] then [.current] else []
  first ++ (segments body).filterMap component?

/-- A reversed text without the separators and `.` segments at its end. -/
def trimEnd : List UInt8 → List UInt8
  | [] => []
  | [b] => if b = slash ∨ b = dot then [] else [b]
  | b :: c :: rest =>
    if b = slash then trimEnd (c :: rest)
    else if b = dot ∧ c = slash then trimEnd rest
    else b :: c :: rest

/-- A reversed text without its last segment and the separator before it. -/
def dropSegment (reversed : List UInt8) : List UInt8 :=
  (reversed.dropWhile (· ≠ slash)).drop 1

/-- The path without its last component, unless it has none or only the root. -/
def parent? (p : Path) : Option Path :=
  let (lead, body) := splitLead p.bytes
  match trimEnd body.reverse with
  | [] => if lead = [dot] then some empty else none
  | last => some ⟨lead ++ (trimEnd (dropSegment last)).reverse⟩

/-- The last component of a path, if it is a name. -/
def fileName? (p : Path) : Option Name :=
  match p.components.getLast? with
  | some (.name name) => some name
  | _ => none

/-- A path and its parents, up to the given number. -/
def ancestorsWithin : Nat → Path → List Path
  | 0, p => [p]
  | fuel + 1, p =>
    match p.parent? with
    | some q => p :: ancestorsWithin fuel q
    | none => [p]

/-- A path as it is written, its parent, the parent of that, and so on. -/
def ancestors (p : Path) : List Path := ancestorsWithin (p.bytes.length + 1) p

/-- The path within a directory: an absolute path stands for itself. -/
def join (directory p : Path) : Path :=
  if p.isAbsolute then p
  else if directory.bytes = [] then p
  else if directory.bytes.getLast? = some slash then ⟨directory.bytes ++ p.bytes⟩
  else ⟨directory.bytes ++ slash :: p.bytes⟩

/-- The path within a directory that a text names. -/
def child (directory : Path) (s : String) : Path := directory.join (ofText s)

/-- Equality of paths by their components. -/
def same (p q : Path) : Bool := p.components = q.components

/-- Whether the components of the second path are the first ones of the first path. -/
def startsWith (p q : Path) : Bool := q.components.isPrefixOf p.components

/-- The extension of the last component: what follows its last full stop, unless that
stop is the only one and stands first. -/
def extension? (p : Path) : Option Name := do
  let name ← p.fileName?
  let after := (name.reverse.takeWhile (· ≠ dot)).reverse
  let before := name.take (name.length - after.length)
  match before with
  | [] => none
  | [_] => none
  | _ => some after

/-! ### Order -/

/-- The rank of a component among those of other forms. -/
def rank : Component → Nat
  | .root => 0
  | .current => 1
  | .parent => 2
  | .name _ => 3

/-- The order of names, byte by byte. -/
def compareNames : Name → Name → Ordering
  | [], [] => .eq
  | [], _ :: _ => .lt
  | _ :: _, [] => .gt
  | b :: bs, c :: cs => (compare b.toNat c.toNat).then (compareNames bs cs)

/-- The order of components: by form, and names byte by byte. -/
def compareComponents : Component → Component → Ordering
  | .name a, .name b => compareNames a b
  | a, b => compare (rank a) (rank b)

/-- The order of component sequences, component by component. -/
def compareSequences : List Component → List Component → Ordering
  | [], [] => .eq
  | [], _ :: _ => .lt
  | _ :: _, [] => .gt
  | a :: as, b :: bs => (compareComponents a b).then (compareSequences as bs)

/-- The order of paths. -/
def compare (p q : Path) : Ordering := compareSequences p.components q.components

/-- The least path that contains the names below the root. -/
def ofNames (names : List Name) : Path :=
  match names with
  | [] => rootDirectory
  | _ => ⟨names.flatMap fun name => slash :: name⟩

end Path

end TemplateLint
