import TemplateLint.Uri.Basic
import TemplateLint.Uri.Host

/-!
# Reading URIs

The normal form of a text that is a URI.  Blank characters around the text and line
breaks in it carry no meaning.  Schemes are written in lower case.  The schemes of the
web and that of files are special: they always have an authority and a path that starts
with a slash, and in them a backslash is a slash.  Segments of one or two dots are
resolved, and characters that do not belong where they stand are percent-encoded.
-/

namespace TemplateLint.Uri

/-- The kinds of schemes: that of files, the other special ones, and all others. -/
inductive SchemeKind where
  | file
  | web
  | common
deriving DecidableEq

/-- The special schemes other than that of files, with the numbers of their endpoints. -/
def webEndpoints : List (String × Nat) :=
  [("http", 80), ("https", 443), ("ws", 80), ("wss", 443), ("ftp", 21)]

/-- The kind of a scheme. -/
def schemeKind (scheme : String) : SchemeKind :=
  if scheme = "file" then .file
  else if (webEndpoints.lookup scheme).isSome then .web
  else .common

/-- The characters of the text that carry meaning. -/
def meaningful (cs : List Char) : List Char :=
  let isOuter (c : Char) : Bool := c.toNat ≤ 0x20
  let trimmed := ((cs.dropWhile isOuter).reverse.dropWhile isOuter).reverse
  trimmed.filter fun c => c ≠ '\t' && c ≠ '\n' && c ≠ '\r'

/-- The letters of ASCII. -/
def isLetter (c : Char) : Bool := c.isAlpha

/-- The scheme at the start of a text, and the text after its colon. -/
def scheme? (cs : List Char) : Option (String × List Char) :=
  match cs with
  | first :: _ =>
    let continues (c : Char) : Bool := c.isAlphanum || c == '+' || c == '-' || c == '.'
    match cs.dropWhile continues with
    | ':' :: rest =>
      if isLetter first then
        some (String.ofList ((cs.takeWhile continues).map Char.toLower), rest)
      else none
    | _ => none
  | [] => none

/-- Whether a character is a slash for a kind of scheme. -/
def isSlash (kind : SchemeKind) (c : Char) : Bool :=
  c == '/' || (c == '\\' && kind ≠ .common)

/-- Whether a character ends an authority. -/
def endsAuthority (kind : SchemeKind) (c : Char) : Bool :=
  isSlash kind c || c == '?' || c == '#'

/-! ### Authorities -/

/-- The written form of a user and a password, with the sign that follows them. -/
def userChars (cs : List Char) : List Char :=
  let name := encode encodedInUser (cs.takeWhile (· ≠ ':'))
  let password := encode encodedInUser ((cs.dropWhile (· ≠ ':')).drop 1)
  let written := if password = [] then name else name ++ ':' :: password
  if written = [] then [] else written ++ ['@']

/-- The user in an authority and what follows the last at sign of the authority. -/
def splitUser (kind : SchemeKind) (cs : List Char) : Except Fault (List Char × List Char) :=
  let authority := cs.takeWhile fun c => !endsAuthority kind c
  let after := cs.dropWhile fun c => !endsAuthority kind c
  let reversed := authority.reverse
  match reversed.dropWhile (· ≠ '@') with
  | [] => .ok ([], cs)
  | _ :: user =>
    let host := (reversed.takeWhile (· ≠ '@')).reverse
    if user = [] ∧ host = [] ∧ after ≠ [] then .error .emptyHost
    else .ok (userChars user.reverse, host ++ after)

/-- The text of a host and what follows it; a colon between brackets belongs to the
host. -/
def splitHost (kind : SchemeKind) : Bool → List Char → List Char × List Char
  | _, [] => ([], [])
  | inside, c :: rest =>
    if endsAuthority kind c || (c == ':' && !inside) then ([], c :: rest)
    else
      let inside := if c = '[' then true else if c = ']' then false else inside
      let (host, after) := splitHost kind inside rest
      (c :: host, after)

/-- The number of an endpoint and what follows it. -/
def endpointNumber (kind : SchemeKind) : Nat → List Char → Except Fault (Nat × List Char)
  | n, [] => .ok (n, [])
  | n, c :: rest =>
    if c.isDigit then
      let next := n * 10 + (c.toNat - 0x30)
      if 65535 < next then .error .endpoint else endpointNumber kind next rest
    else if endsAuthority kind c || c == '\\' then .ok (n, c :: rest)
    else .error .endpoint

/-- The number of the endpoint after a host, unless it is that of the scheme, and what
follows it. -/
def readEndpoint (scheme : String) (kind : SchemeKind) (cs : List Char) :
    Except Fault (Option Nat × List Char) := do
  match cs with
  | ':' :: rest =>
    let (n, after) ← endpointNumber kind 0 rest
    let written := (rest.head?.map Char.isDigit).getD false
    return (if written ∧ webEndpoints.lookup scheme ≠ some n then some n else none, after)
  | _ => return (none, cs)

/-- The authority at the start of a text, and what follows it. -/
def readAuthority (scheme : String) (kind : SchemeKind) (cs : List Char) :
    Except Fault (Authority × List Char) := do
  let (user, rest) ← splitUser kind cs
  let (written, rest) := splitHost kind false rest
  if kind = .web ∧ written = [] then throw .emptyHost
  let host ← if kind = .common then opaqueHost written else host written
  if host = [] ∧ rest.head? = some ':' then throw .emptyHost
  let (endpoint, rest) ← readEndpoint scheme kind rest
  if host = [] ∧ user ≠ [] then throw .emptyHost
  return (⟨String.ofList user, String.ofList host, endpoint⟩, rest)

/-! ### Paths -/

/-- The letters of drives, with the mark that follows them. -/
def isDrive (cs : List Char) : Bool :=
  match cs with
  | [letter, mark] => isLetter letter && (mark == ':' || mark == '|')
  | _ => false

/-- A segment in which an escaped dot is a dot. -/
def plainDots : List Char → List Char
  | '%' :: '2' :: 'e' :: rest => '.' :: plainDots rest
  | '%' :: '2' :: 'E' :: rest => '.' :: plainDots rest
  | c :: rest => c :: plainDots rest
  | [] => []

/-- The segments before the last one, in reverse, without the last of them; the letter
of a drive stays. -/
def dropLast (read : List (List Char)) : List (List Char) :=
  match read with
  | last :: rest => if isDrive last then read else rest
  | [] => []

/-- Segments with those of one or two dots resolved; the segments that were read come in
reverse. -/
def resolveDots (read : List (List Char)) : List (List Char) → List (List Char)
  | [] => read.reverse
  | segment :: rest =>
    if plainDots segment = ['.', '.'] then
      if rest = [] then (([] : List Char) :: dropLast read).reverse
      else resolveDots (dropLast read) rest
    else if plainDots segment = ['.'] then
      if rest = [] then (([] : List Char) :: read).reverse else resolveDots read rest
    else resolveDots (segment :: read) rest

/-- The segments of a text between slashes. -/
def splitSlashes (kind : SchemeKind) (cs : List Char) : List (List Char) :=
  (cs.map fun c => if isSlash kind c then '/' else c).splitOn '/'

/-- The segments of a path, after its first slash. -/
def pathSegments (kind : SchemeKind) (cs : List Char) : List (List Char) :=
  resolveDots [] ((splitSlashes kind cs).map (encode encodedInPath))

/-- The path of segments. -/
def pathOf (segments : List (List Char)) : String :=
  String.ofList ('/' :: ['/'].intercalate segments)

/-- The path of segments of a file, where empty ones at the start carry no meaning. -/
def filePathOf (segments : List (List Char)) : String := pathOf (segments.dropWhile (· = []))

/-- The segments of a path on a host, if the path starts with the letter of a drive; the
letter is then written with a colon. -/
def onDrive? : List (List Char) → Option (List (List Char))
  | first :: rest => if isDrive first then some ((first.take 1 ++ [':']) :: rest) else none
  | [] => none

/-- A text without a slash at its start. -/
def dropSlash (kind : SchemeKind) (cs : List Char) : List Char :=
  match cs with
  | c :: rest => if isSlash kind c then rest else cs
  | [] => []

/-- The path after an authority. -/
def pathAfterAuthority (kind : SchemeKind) (cs : List Char) : String :=
  if kind = .common ∧ cs = [] then ""
  else pathOf (pathSegments kind (dropSlash kind cs))

/-! ### Queries and fragments -/

/-- The part of a text before a query or fragment. -/
def beforeQuery (cs : List Char) : List Char := cs.takeWhile fun c => c ≠ '?' && c ≠ '#'

/-- The query of a text. -/
def query? (kind : SchemeKind) (cs : List Char) : Option String :=
  match cs.dropWhile fun c => c ≠ '?' && c ≠ '#' with
  | '?' :: rest =>
    let encoded := if kind = .common then encodedInQuery else encodedInSpecialQuery
    some (String.ofList (encode encoded (rest.takeWhile (· ≠ '#'))))
  | _ => none

/-- The fragment of a text. -/
def fragment? (cs : List Char) : Option String :=
  match cs.dropWhile (· ≠ '#') with
  | '#' :: rest => some (String.ofList (encode encodedInFragment rest))
  | _ => none

/-! ### URIs -/

/-- The host of a file URI, after two slashes, and what follows it.  The letter of a drive
is no host, and this computer is not named. -/
def fileHost (cs : List Char) : Except Fault (String × List Char) := do
  let written := cs.takeWhile fun c => !endsAuthority .file c
  if isDrive written then return ("", cs)
  let rest := cs.dropWhile fun c => !endsAuthority .file c
  if written = [] then return ("", rest)
  let name := String.ofList (← host written)
  return (if name = "localhost" then "" else name, rest)

/-- The host and the path of a file URI, after its scheme.  A path that starts with the
letter of a drive leaves no host. -/
def fileParts (cs : List Char) : Except Fault (String × String) := do
  let body := beforeQuery cs
  let here := pathSegments .file (dropSlash .file body)
  match body with
  | a :: b :: rest =>
    if isSlash .file a ∧ isSlash .file b then
      let (host, rest) ← fileHost rest
      let segments := pathSegments .file (dropSlash .file rest)
      match (if host = "" then none else onDrive? segments) with
      | some segments => return ("", filePathOf segments)
      | none => return (host, filePathOf segments)
    else return ("", filePathOf here)
  | _ => return ("", filePathOf here)

/-- The URI with a scheme, after its colon. -/
def parseRest (scheme : String) (cs : List Char) : Except Fault Uri := do
  let kind := schemeKind scheme
  let query := query? kind cs
  let fragment := fragment? cs
  match kind with
  | .file =>
    let (host, path) ← fileParts cs
    return ⟨scheme, some ⟨"", host, none⟩, path, query, fragment⟩
  | .web =>
    let (authority, rest) ← readAuthority scheme kind (cs.dropWhile (isSlash kind))
    return ⟨scheme, some authority, pathAfterAuthority kind (beforeQuery rest), query, fragment⟩
  | .common =>
    match cs with
    | '/' :: '/' :: rest =>
      let (authority, rest) ← readAuthority scheme kind rest
      return ⟨scheme, some authority, pathAfterAuthority kind (beforeQuery rest), query, fragment⟩
    | '/' :: rest =>
      return ⟨scheme, none, pathOf (pathSegments kind (beforeQuery rest)), query, fragment⟩
    | _ =>
      return ⟨scheme, none, String.ofList (encode isControl (beforeQuery cs)), query, fragment⟩

/-- The URI that a text denotes. -/
def parse (s : String) : Except Fault Uri :=
  match scheme? (meaningful s.toList) with
  | some (scheme, rest) => parseRest scheme rest
  | none => .error .relative

end TemplateLint.Uri
