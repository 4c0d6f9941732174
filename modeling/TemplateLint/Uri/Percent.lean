import TemplateLint.Text.Utf8

/-!
# Percent-encoding

Characters written as a percent sign and two hexadecimal digits for each byte of their
UTF-8 form.  Which characters are written so depends on the place in a URI; a percent
sign itself is kept where it may already start an escape.
-/

namespace TemplateLint.Uri

/-- The characters that are encoded everywhere: control characters and all that are not
ASCII. -/
def isControl (c : Char) : Bool := c.toNat < 0x20 || 0x7F ≤ c.toNat

/-- The characters that are encoded in a fragment. -/
def encodedInFragment (c : Char) : Bool :=
  isControl c || c == ' ' || c == '"' || c == '<' || c == '>' || c == '\x60'

/-- The characters that are encoded in a query. -/
def encodedInQuery (c : Char) : Bool :=
  isControl c || c == ' ' || c == '"' || c == '<' || c == '>' || c == '#'

/-- The characters that are encoded in the query of a URI with a special scheme. -/
def encodedInSpecialQuery (c : Char) : Bool := encodedInQuery c || c == '\x27'

/-- The characters that are encoded in a path. -/
def encodedInPath (c : Char) : Bool :=
  encodedInFragment c || c == '#' || c == '?' || c == '\x7b' || c == '\x7d'

/-- The characters that are encoded in a user name or password. -/
def encodedInUser (c : Char) : Bool :=
  encodedInPath c || c == '/' || c == ':' || c == ';' || c == '=' || c == '@' || c == '['
    || c == '\\' || c == ']' || c == '^' || c == '|'

/-- The characters that are encoded in the name of a file. -/
def encodedInName (c : Char) : Bool :=
  encodedInPath c || c == '/' || c == '%' || c == '\\'

/-- A hexadecimal digit in upper case. -/
def hexDigit (n : Nat) : Char :=
  if n < 10 then Char.ofNat (0x30 + n) else Char.ofNat (0x37 + n)

/-- The escape of a byte. -/
def escapeByte (b : UInt8) : List Char :=
  ['%', hexDigit (b.toNat / 16), hexDigit (b.toNat % 16)]

/-- The encoded form of a character sequence. -/
def encode (encoded : Char → Bool) (cs : List Char) : List Char :=
  cs.flatMap fun c =>
    if encoded c then (String.utf8EncodeChar c).flatMap escapeByte else [c]

/-- The encoded form of a byte sequence. -/
def encodeBytes (encoded : Char → Bool) (bytes : List UInt8) : List Char :=
  bytes.flatMap fun b =>
    let c := Char.ofNat b.toNat
    if 0x80 ≤ b.toNat ∨ encoded c then escapeByte b else [c]

/-- The value of a byte that is a hexadecimal digit. -/
def hexValue? (b : UInt8) : Option UInt8 :=
  if 48 ≤ b && b ≤ 57 then some (b - 48)
  else if 65 ≤ b && b ≤ 70 then some (b - 55)
  else if 97 ≤ b && b ≤ 102 then some (b - 87)
  else none

/-- A byte sequence with each escape replaced by the byte that it stands for. -/
def decode : List UInt8 → List UInt8
  | [] => []
  | [b] => [b]
  | [b, c] => [b, c]
  | b :: c :: d :: rest =>
    match (if b = 37 then hexValue? c else none), hexValue? d with
    | some high, some low => (high * 16 + low) :: decode rest
    | _, _ => b :: decode (c :: d :: rest)

end TemplateLint.Uri
