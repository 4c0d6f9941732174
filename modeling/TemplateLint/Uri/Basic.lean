import TemplateLint.System.Path
import TemplateLint.Uri.Percent

/-!
# URIs

URIs in normal form: a scheme, an authority if there is one, a path, and a query and a
fragment if there are any, each in its written form.  A URI whose path starts with a
slash and whose host is this computer leads to a file; the path of the file consists of
the segments of the path of the URI with their escapes decoded.
-/

namespace TemplateLint

/-- The authority of a URI: the user with the sign that follows it, the host, and the
number of the endpoint on the host if it is not that of the scheme. -/
structure Uri.Authority where
  user : String
  host : String
  endpoint : Option Nat
deriving DecidableEq

/-- A URI. -/
structure Uri where
  scheme : String
  authority : Option Uri.Authority
  path : String
  query : Option String
  fragment : Option String
deriving DecidableEq

namespace Uri

/-- The written form of an authority. -/
def Authority.text (a : Authority) : String :=
  a.user ++ a.host ++
    match a.endpoint with
    | some number => ":" ++ toString number
    | none => ""

/-- The part of a URI between the scheme and the path.  A path that starts with two
slashes is kept apart from an authority by a dot. -/
def hierarchy (u : Uri) : String :=
  match u.authority with
  | some authority => "//" ++ authority.text
  | none => if ['/', '/'].isPrefixOf u.path.toList then "/." else ""

/-- The written form of a URI. -/
def text (u : Uri) : String :=
  u.scheme ++ ":" ++ u.hierarchy ++ u.path
    ++ (match u.query with
      | some query => "?" ++ query
      | none => "")
    ++ (match u.fragment with
      | some fragment => "#" ++ fragment
      | none => "")

/-- The segments of the path of a URI, if it starts with a slash. -/
def segments? (u : Uri) : Option (List String) :=
  match u.path.toList with
  | '/' :: rest => some ((rest.splitOn '/').map String.ofList)
  | _ => none

/-- The last segment of the path of a URI, if it starts with a slash. -/
def lastSegment? (u : Uri) : Option String := u.segments?.bind List.getLast?

/-! ### Files -/

/-- Whether a URI leads to this computer. -/
def isHere (u : Uri) : Bool :=
  match u.authority with
  | some authority => authority.host = "" || authority.host = "localhost"
  | none => true

/-- The bytes of letters. -/
def isLetterByte (b : UInt8) : Bool := (65 ≤ b && b ≤ 90) || (97 ≤ b && b ≤ 122)

/-- A byte sequence with a slash at its end if it ends with the letter of a drive. -/
def closeDrive (bytes : List UInt8) : List UInt8 :=
  match bytes.reverse with
  | mark :: letter :: _ :: _ =>
    if isLetterByte letter ∧ (mark = 58 ∨ mark = 124) then bytes ++ [Path.slash] else bytes
  | _ => bytes

/-- The path of the file that a URI leads to, if it leads to one. -/
def filePath? (u : Uri) : Option Path := do
  let segments ← u.segments?
  if u.isHere then
    some ⟨closeDrive (segments.flatMap fun s => Path.slash :: decode (Text.encode s))⟩
  else none

/-- The bytes of a component. -/
def componentBytes : Component → List UInt8
  | .root => [Path.slash]
  | .current => [Path.dot]
  | .parent => [Path.dot, Path.dot]
  | .name name => name

/-- The URI of a directory at an absolute path. -/
def ofDirectory? (path : Path) : Option Uri :=
  if path.isAbsolute then
    let segments := (path.components.drop 1).map fun c =>
      encodeBytes encodedInName (componentBytes c)
    let inner := segments.flatMap fun s => '/' :: s
    some ⟨"file", some ⟨"", "", none⟩, String.ofList (inner ++ ['/']), none, none⟩
  else none

end Uri

end TemplateLint
