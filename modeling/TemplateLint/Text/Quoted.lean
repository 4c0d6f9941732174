import TemplateLint.Text.Category

/-!
# Quoted text

A text between double quotes, with the characters escaped that would not show on their
own: quotes and backslashes, the usual control characters by a letter, and every other
hidden character by its code point.
-/

namespace TemplateLint.Text

/-- The escaped form of a character inside quotes. -/
def escapeQuoted (c : Char) : List Char :=
  match c with
  | '"' => ['\\', '"']
  | '\\' => ['\\', '\\']
  | '\n' => ['\\', 'n']
  | '\r' => ['\\', 'r']
  | '\t' => ['\\', 't']
  | '\x00' => ['\\', '0']
  | _ =>
    if isHidden c then ['\\', 'u', '\x7b'] ++ Nat.toDigits 16 c.toNat ++ ['\x7d'] else [c]

/-- A text between double quotes. -/
def quote (s : String) : String :=
  String.ofList ('"' :: s.toList.flatMap escapeQuoted ++ ['"'])

end TemplateLint.Text
