/-!
# UTF-8

Texts as sequences of bytes, and back.  `decode?` accepts exactly the well-formed
sequences; `decodeLossy` accepts every sequence and writes one replacement character
for each maximal ill-formed part, as the Unicode standard recommends.
-/

namespace TemplateLint.Text

/-- The character that stands for bytes that are no text. -/
def replacement : Char := '\uFFFD'

/-- The UTF-8 bytes of a character sequence. -/
def encodeChars (cs : List Char) : List UInt8 :=
  cs.flatMap String.utf8EncodeChar

/-- The UTF-8 bytes of a text. -/
def encode (s : String) : List UInt8 :=
  encodeChars s.toList

/-- The bytes that continue a character. -/
def isContinuation (b : UInt8) : Bool :=
  0x80 ≤ b && b ≤ 0xBF

/-- The bytes that may follow the lead byte of a character of several bytes: after
four of the leads the range is narrowed, so that no character has two forms, none is
a surrogate and none lies beyond the last code point. -/
def followsLead (lead second : UInt8) : Bool :=
  if lead = 0xE0 then 0xA0 ≤ second && second ≤ 0xBF
  else if lead = 0xED then 0x80 ≤ second && second ≤ 0x9F
  else if lead = 0xF0 then 0x90 ≤ second && second ≤ 0xBF
  else if lead = 0xF4 then 0x80 ≤ second && second ≤ 0x8F
  else isContinuation second

/-- The number of bytes of the character that a byte starts, if it starts one. -/
def leadLength? (b : UInt8) : Option Nat :=
  if b < 0x80 then some 1
  else if 0xC2 ≤ b && b ≤ 0xDF then some 2
  else if 0xE0 ≤ b && b ≤ 0xEF then some 3
  else if 0xF0 ≤ b && b ≤ 0xF4 then some 4
  else none

/-- The payload of a continuation byte. -/
def payload (b : UInt8) : Nat := b.toNat % 64

/-- The first character of a byte sequence, or nothing where the sequence starts with
an ill-formed part, and the number of bytes that the character or that part takes. -/
def step (b : UInt8) (rest : List UInt8) : Option Char × Nat :=
  match leadLength? b, rest with
  | some 1, _ => (some (Char.ofNat b.toNat), 1)
  | some 2, c :: _ =>
    if followsLead b c then (some (Char.ofNat ((b.toNat % 32) * 64 + payload c)), 2)
    else (none, 1)
  | some 3, c :: d :: _ =>
    if followsLead b c then
      if isContinuation d then
        (some (Char.ofNat ((b.toNat % 16) * 4096 + payload c * 64 + payload d)), 3)
      else (none, 2)
    else (none, 1)
  | some 4, c :: d :: e :: _ =>
    if followsLead b c then
      if isContinuation d then
        if isContinuation e then
          (some (Char.ofNat ((b.toNat % 8) * 262144 + payload c * 4096
            + payload d * 64 + payload e)), 4)
        else (none, 3)
      else (none, 2)
    else (none, 1)
  | some 3, [c] => (none, if followsLead b c then 2 else 1)
  | some 4, [c] => (none, if followsLead b c then 2 else 1)
  | some 4, [c, d] =>
    (none, if followsLead b c then (if isContinuation d then 3 else 2) else 1)
  | _, _ => (none, 1)

/-- The characters of a byte sequence, with a mark where a part is ill-formed; the
fuel bounds the number of characters. -/
def stepAll : Nat → List UInt8 → List (Option Char)
  | 0, _ => []
  | _, [] => []
  | fuel + 1, b :: rest =>
    let (c, width) := step b rest
    c :: stepAll fuel (rest.drop (width - 1))

/-- The text that a byte sequence encodes, with each ill-formed part replaced. -/
def decodeLossy (bytes : List UInt8) : String :=
  String.ofList ((stepAll bytes.length bytes).map fun c => c.getD replacement)

/-- The text that a byte sequence encodes, if it is well formed. -/
def decode? (bytes : List UInt8) : Option String :=
  (stepAll bytes.length bytes).mapM id |>.map String.ofList

end TemplateLint.Text
