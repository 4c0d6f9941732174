import TemplateLint.Number.Power
import TemplateLint.Uri.Name
import TemplateLint.Uri.Percent

/-!
# Hosts

The hosts of URIs: names, and addresses of the two Internet protocols.  A name that ends in
a number is an address.  Where a scheme gives hosts no meaning, a host is kept as it stands.
-/

namespace TemplateLint.Uri

/-- A cause for which a text is no URI. -/
inductive Fault where
  | relative
  | emptyHost
  | name
  | nameCharacter
  | address4
  | address6
  | endpoint
deriving DecidableEq

/-- The wording of a cause for which a text is no URI. -/
def Fault.message : Fault → String
  | relative => "relative URL without a base"
  | emptyHost => "empty host"
  | name => "invalid international domain name"
  | nameCharacter => "invalid domain character"
  | address4 => "invalid IPv4 address"
  | address6 => "invalid IPv6 address"
  | endpoint => "invalid port number"

/-! ### Numbers -/

/-- The value of a digit in a base of at most sixteen. -/
def digitIn? (base : Nat) (c : Char) : Option Nat :=
  let value :=
    if c.isDigit then c.toNat - 0x30
    else if 'a' ≤ c ∧ c ≤ 'f' then c.toNat - 0x57
    else if 'A' ≤ c ∧ c ≤ 'F' then c.toNat - 0x37
    else base
  if value < base then some value else none

/-- The number that digits denote, if all of them are digits. -/
def numberIn? (base : Nat) (cs : List Char) : Option Nat :=
  cs.foldlM (fun n c => (digitIn? base c).map fun d => n * base + d) 0

/-- The digits of a number in a base. -/
def digits (base n : Nat) : List Char := Nat.toDigits base n

/-! ### Addresses of the fourth protocol -/

/-- A part of an address: a number in base ten, eight or sixteen. -/
def part4? (cs : List Char) : Option Nat :=
  match cs with
  | [] => none
  | '0' :: 'x' :: rest => numberIn? 16 rest
  | '0' :: 'X' :: rest => numberIn? 16 rest
  | '0' :: c :: rest => numberIn? 8 (c :: rest)
  | _ => numberIn? 10 cs

/-- The parts of a name, without an empty one at the end. -/
def parts4 (cs : List Char) : List (List Char) :=
  let parts := cs.splitOn '.'
  if parts.getLast? = some [] ∧ 1 < parts.length then parts.dropLast else parts

/-- Whether the last part of a name is a number. -/
def endsInNumber (cs : List Char) : Bool :=
  match (parts4 cs).getLast? with
  | some last => (last ≠ [] && last.all Char.isDigit) || (part4? last).isSome
  | none => false

/-- The address that parts denote: each but the last is a byte, and the last one stands
for all bytes that are left. -/
def address4? (cs : List Char) : Option Nat := do
  let parts := parts4 cs
  if 4 < parts.length then none
  let numbers ← parts.mapM part4?
  let last ← numbers.getLast?
  let bytes := numbers.dropLast
  if bytes.any (255 < ·) then none
  if twoTo (8 * (4 - bytes.length)) ≤ last then none
  let place (entry : Nat × Nat) : Nat := entry.1 * twoTo (8 * (3 - entry.2))
  return bytes.zipIdx.foldl (fun acc entry => acc + place entry) last

/-- The written form of an address. -/
def address4Chars (n : Nat) : List Char :=
  ['.'].intercalate ([n / 16777216, n / 65536 % 256, n / 256 % 256, n % 256].map (digits 10))

/-! ### Addresses of the sixth protocol -/

/-- A group of an address: up to four hexadecimal digits. -/
def group6? (cs : List Char) : Option Nat :=
  if cs = [] ∨ 4 < cs.length then none else numberIn? 16 cs

/-- A byte of an embedded address of the fourth protocol. -/
def byte? (cs : List Char) : Option Nat :=
  if cs = [] ∨ (cs.head? = some '0' ∧ 1 < cs.length) then none
  else (numberIn? 10 cs).bind fun n => if n ≤ 255 then some n else none

/-- The two groups of an embedded address of the fourth protocol. -/
def embedded? (cs : List Char) : Option (List Nat) :=
  match (cs.splitOn '.').mapM byte? with
  | some [a, b, c, d] => some [a * 256 + b, c * 256 + d]
  | _ => none

/-- Groups between colons; the last one may be an embedded address where that is
allowed. -/
def groups6? (embedding : Bool) : List (List Char) → Option (List Nat)
  | [] => some []
  | [last] =>
    match group6? last with
    | some n => some [n]
    | none => if embedding then embedded? last else none
  | group :: rest => do
    let n ← group6? group
    return n :: (← groups6? embedding rest)

/-- The groups in a side of an address, which may be empty. -/
def side6? (embedding : Bool) (cs : List Char) : Option (List Nat) :=
  if cs = [] then some [] else groups6? embedding (cs.splitOn ':')

/-- The two sides of the first double colon. -/
def splitGap : List Char → Option (List Char × List Char)
  | ':' :: ':' :: rest => some ([], rest)
  | c :: rest => (splitGap rest).map fun (left, right) => (c :: left, right)
  | [] => none

/-- The eight groups of an address; a double colon stands for one zero or more. -/
def address6? (cs : List Char) : Option (List Nat) := do
  match splitGap cs with
  | none =>
    let groups ← groups6? true (cs.splitOn ':')
    if groups.length = 8 then some groups else none
  | some (left, right) =>
    let before ← side6? false left
    let after ← side6? true right
    let count := before.length + after.length
    if count < 8 then some (before ++ List.replicate (8 - count) 0 ++ after) else none

/-- The length of the run of zeros at the start. -/
def zeros (groups : List Nat) : Nat := (groups.takeWhile (· = 0)).length

/-- The position and length of the first longest run of zeros. -/
def longestZeros : List Nat → Nat × Nat
  | [] => (0, 0)
  | g :: rest =>
    let (start, length) := longestZeros rest
    if length ≤ zeros (g :: rest) then (0, zeros (g :: rest)) else (start + 1, length)

/-- Groups with colons between them. -/
def groupChars (groups : List Nat) : List Char :=
  [':'].intercalate (groups.map (digits 16))

/-- The written form of an address, with the first longest run of two zeros or more
left out. -/
def address6Chars (groups : List Nat) : List Char :=
  let (start, length) := longestZeros groups
  let inner :=
    if length < 2 then groupChars groups
    else groupChars (groups.take start) ++ [':', ':'] ++ groupChars (groups.drop (start + length))
  '[' :: inner ++ [']']

/-! ### Hosts -/

/-- An address between brackets. -/
def bracketed (cs : List Char) : Except Fault (List Char) :=
  if cs.getLast? = some ']' then
    match address6? cs.dropLast with
    | some groups => .ok (address6Chars groups)
    | none => .error .address6
  else .error .address6

/-- The written form of a host. -/
def host (cs : List Char) : Except Fault (List Char) :=
  match cs with
  | '[' :: rest => bracketed rest
  | _ =>
    match Name.ofWritten? cs with
    | none => .error .name
    | some name =>
      if name = [] then .error .emptyHost
      else if endsInNumber name then
        match address4? name with
        | some address => .ok (address4Chars address)
        | none => .error .address4
      else .ok name

/-- The characters that stand in no host without meaning. -/
def isForbiddenOpaque (c : Char) : Bool :=
  ['\x00', '\t', '\n', '\r', ' ', '#', '/', ':', '<', '>', '?', '@', '[', '\\', ']', '^',
    '|'].contains c

/-- The written form of a host without meaning. -/
def opaqueHost (cs : List Char) : Except Fault (List Char) :=
  match cs with
  | '[' :: rest => bracketed rest
  | _ =>
    if cs.any isForbiddenOpaque then .error .nameCharacter else .ok (encode isControl cs)

end TemplateLint.Uri
