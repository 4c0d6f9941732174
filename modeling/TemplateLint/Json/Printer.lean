import TemplateLint.Json.Value
import TemplateLint.Number.Notation

/-!
# Printing JSON

The two written forms of a value: the compact one, without any blank character outside
strings, and the indented one, with an element or a member on each line.  In strings,
quotes, backslashes and the characters below the space are escaped, and nothing else is.
-/

namespace TemplateLint.Json

/-- A hexadecimal digit. -/
def hexChar (n : Nat) : Char := (Nat.digitChar n)

/-- The written form of a character inside a string. -/
def escapeChar (c : Char) : List Char :=
  match c with
  | '"' => ['\\', '"']
  | '\\' => ['\\', '\\']
  | '\x08' => ['\\', 'b']
  | '\x0c' => ['\\', 'f']
  | '\n' => ['\\', 'n']
  | '\r' => ['\\', 'r']
  | '\t' => ['\\', 't']
  | _ =>
    if c.toNat < 0x20 then
      ['\\', 'u', '0', '0', hexChar (c.toNat / 16), hexChar (c.toNat % 16)]
    else [c]

/-- The written form of a string, quotes included. -/
def stringChars (s : String) : List Char :=
  '"' :: s.toList.flatMap escapeChar ++ ['"']

/-- The written form of an integer. -/
def integerChars (i : Int) : List Char :=
  if i < 0 then '-' :: Binary64.digitChars i.natAbs else Binary64.digitChars i.natAbs

/-- The written form of a number. -/
def numberChars : Number → List Char
  | .integer i => integerChars i
  | .double x => (if x.negative then ['-'] else []) ++ Binary64.magnitudeChars x.units

/-- The written form of a truth value. -/
def boolChars (b : Bool) : List Char :=
  if b then ['t', 'r', 'u', 'e'] else ['f', 'a', 'l', 's', 'e']

/-! ### The compact form -/

mutual

/-- The compact form of a value. -/
def compactChars : Value → List Char
  | .null => ['n', 'u', 'l', 'l']
  | .bool b => boolChars b
  | .number n => numberChars n
  | .text s => stringChars s
  | .list items => '[' :: compactItems items ++ [']']
  | .object members => '\x7b' :: compactMembers members ++ ['\x7d']

/-- The compact forms of values with commas between them. -/
def compactItems : List Value → List Char
  | [] => []
  | [item] => compactChars item
  | item :: rest => compactChars item ++ ',' :: compactItems rest

/-- The compact forms of members with commas between them. -/
def compactMembers : List (String × Value) → List Char
  | [] => []
  | [(key, value)] => stringChars key ++ ':' :: compactChars value
  | (key, value) :: rest =>
    stringChars key ++ ':' :: compactChars value ++ ',' :: compactMembers rest

end

/-- A value in compact form. -/
def compact (value : Value) : String := String.ofList (compactChars value)

/-! ### The indented form -/

/-- The start of a line at a depth of nesting. -/
def lineStart (depth : Nat) : List Char := '\n' :: List.replicate (2 * depth) ' '

mutual

/-- The indented form of a value at a depth of nesting. -/
def indentedChars (depth : Nat) : Value → List Char
  | .null => ['n', 'u', 'l', 'l']
  | .bool b => boolChars b
  | .number n => numberChars n
  | .text s => stringChars s
  | .list [] => ['[', ']']
  | .list (item :: rest) =>
    '[' :: indentedItems (depth + 1) (item :: rest) ++ lineStart depth ++ [']']
  | .object [] => ['\x7b', '\x7d']
  | .object (member :: rest) =>
    '\x7b' :: indentedMembers (depth + 1) (member :: rest) ++ lineStart depth ++ ['\x7d']

/-- The indented forms of values, each on a line, with commas between them. -/
def indentedItems (depth : Nat) : List Value → List Char
  | [] => []
  | [item] => lineStart depth ++ indentedChars depth item
  | item :: rest => lineStart depth ++ indentedChars depth item ++ ',' :: indentedItems depth rest

/-- The indented forms of members, each on a line, with commas between them. -/
def indentedMembers (depth : Nat) : List (String × Value) → List Char
  | [] => []
  | [(key, value)] =>
    lineStart depth ++ stringChars key ++ [':', ' '] ++ indentedChars depth value
  | (key, value) :: rest =>
    lineStart depth ++ stringChars key ++ [':', ' '] ++ indentedChars depth value
      ++ ',' :: indentedMembers depth rest

end

/-- A value in indented form. -/
def indented (value : Value) : String := String.ofList (indentedChars 0 value)

end TemplateLint.Json
