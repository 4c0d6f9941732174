import TemplateLint.Json5.Fault
import TemplateLint.Json5.Syntax

/-!
# The meaning of JSON5

The JSON value that a JSON5 text denotes.  Meaning is given in reading order, so that the
first fault wins.  A number without point and exponent is an integer of 64 bits, every
other finite one a floating-point number, and an infinite or undefined one the absent
value.  Of a pair of surrogates the second half may be written in any way, as long as
its piece consists of hexadecimal digits; the halves of a pair are joined bit by bit.
-/

namespace TemplateLint.Json5

/-- The characters of a piece, without the backslash and the letter of an escape. -/
def Piece.body : Piece → List Char
  | literal c => [c]
  | escaped c => [c]
  | nul => ['0']
  | hex a b => [a, b]
  | unicode a b c d => [a, b, c, d]

/-- The number that hexadecimal digits denote. -/
def hexValue? (digits : List Char) : Option Nat :=
  digits.foldlM (fun acc c => (Json.hexDigit? c).map fun d => acc * 16 + d) 0

/-- The number of 32 bits that hexadecimal digits denote. -/
def hexWord (digits : List Char) : Except Fault Nat :=
  match hexValue? digits with
  | some n => if n < twoTo 32 then .ok n else .error .hexadecimal
  | none => .error .hexadecimal

/-- The character of an escaped one. -/
def escapedChar (c : Char) : Char :=
  match c with
  | 'b' => '\x08'
  | 'f' => '\x0c'
  | 'n' => '\n'
  | 'r' => '\r'
  | 't' => '\t'
  | 'v' => '\x0b'
  | _ => c

/-- The character of a pair of surrogates: the payloads of the two halves and the bit of the
supplementary planes, joined bit by bit.  Where that bit is already one of the payload, it
is not carried on. -/
def pairChar (lead trail : Nat) : Char :=
  Char.ofNat ((lead - 0xD800) * 1024 ||| (trail - 0xDC00) ||| 0x10000)

/-- The characters that pieces denote; those read so far are in reverse order. -/
def charsOf (read : List Char) : List Piece → Except Fault (List Char)
  | [] => .ok read.reverse
  | .literal c :: rest => charsOf (c :: read) rest
  | .escaped c :: rest => charsOf (escapedChar c :: read) rest
  | .nul :: rest => charsOf ('\x00' :: read) rest
  | .hex a b :: rest =>
    match hexWord [a, b] with
    | .ok n => charsOf (Char.ofNat n :: read) rest
    | .error fault => .error fault
  | .unicode a b c d :: rest =>
    match hexWord [a, b, c, d] with
    | .error fault => .error fault
    | .ok lead =>
      if Json.isTrailingSurrogate lead then .error .unexpectedTrail
      else if Json.isLeadingSurrogate lead then
        match rest with
        | [] => .error .missingTrail
        | next :: rest =>
          match hexWord next.body with
          | .error fault => .error fault
          | .ok trail =>
            if Json.isTrailingSurrogate trail then
              charsOf (pairChar lead trail :: read) rest
            else .error .expectedTrail
      else charsOf (Char.ofNat lead :: read) rest

/-- The text that pieces denote. -/
def textOf (pieces : List Piece) : Except Fault String :=
  (charsOf [] pieces).map String.ofList

/-- The number that decimal digits denote. -/
def decimalValue (digits : List Char) : Nat :=
  digits.foldl (fun acc c => acc * 10 + (c.toNat - '0'.toNat)) 0

/-- The integer of a sign and decimal digits, within 64 bits. -/
def integerOf (negative : Bool) (digits : List Char) : Except Fault Json.Value :=
  let n := decimalValue digits
  if negative then
    if n ≤ twoTo 63 then .ok (.number (.integer (-n))) else .error .integer
  else if n < twoTo 63 then .ok (.number (.integer n))
  else .error .integer

/-- The floating-point number of a sign, the digits before and after the point, and an
exponent. -/
def doubleOf (negative : Bool) (whole fraction : List Char) (exponent : Int) :
    Except Fault Json.Value :=
  let digits := decimalValue (whole ++ fraction)
  match Binary64.ofDecimal? negative digits (exponent - fraction.length) with
  | some x => .ok (.number (.double x))
  | none => .error .numberTooLarge

/-- The exponent of its sign and digits. -/
def exponentOf : Option (Bool × List Char) → Int
  | some (true, digits) => -(decimalValue digits : Int)
  | some (false, digits) => decimalValue digits
  | none => 0

/-- The value that a number denotes.  A hexadecimal number takes no sign, and an infinite
or undefined one no plus. -/
def numberOf (sign : Option Bool) : Magnitude → Except Fault Json.Value
  | .hexadecimal digits =>
    match sign with
    | none => (hexWord digits).map fun n => .number (.integer n)
    | some _ => .error (if digits.any fun c => c == 'e' || c == 'E' then .number else .integer)
  | .infinity => if sign = some false then .error .integer else .ok .null
  | .nan => if sign = some false then .error .integer else .ok .null
  | .decimal whole none none => integerOf (sign = some true) whole
  | .decimal whole fraction exponent =>
    doubleOf (sign = some true) whole (fraction.getD []) (exponentOf exponent)

mutual

/-- The value that a structure denotes. -/
def valueOf : Tree → Except Fault Json.Value
  | .null => .ok .null
  | .bool b => .ok (.bool b)
  | .text pieces => (textOf pieces).map .text
  | .number sign magnitude => numberOf sign magnitude
  | .list items => (valuesOf items).map .list
  | .object pairs => (membersOf [] pairs).map .object

/-- The values that structures denote. -/
def valuesOf : List Tree → Except Fault (List Json.Value)
  | [] => .ok []
  | item :: rest => do
    let value ← valueOf item
    let values ← valuesOf rest
    return value :: values

/-- The members that pairs denote, after those read so far. -/
def membersOf (read : Json.Members) : List (List Piece × Tree) → Except Fault Json.Members
  | [] => .ok read
  | (key, tree) :: rest => do
    let key ← textOf key
    let value ← valueOf tree
    membersOf (read.insert key value) rest

end

/-- The value that a text denotes. -/
def parse (s : String) : Except Fault Json.Value :=
  match recognise? s with
  | some tree => valueOf tree
  | none => .error .grammar

end TemplateLint.Json5
