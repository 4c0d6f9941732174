import TemplateLint.Text.Category

/-!
# Blank text

The characters with the `White_Space` property of Unicode, the removal of blank
characters at both ends of a text, and the texts that consist of nothing else.
-/

namespace TemplateLint.Text

/-- The code points with the `White_Space` property, as closed ranges. -/
def blankRanges : List (Nat × Nat) :=
  [(0x09, 0x0D), (0x20, 0x20), (0x85, 0x85), (0xA0, 0xA0), (0x1680, 0x1680),
    (0x2000, 0x200A), (0x2028, 0x2029), (0x202F, 0x202F), (0x205F, 0x205F),
    (0x3000, 0x3000)]

/-- The characters that count as blank. -/
def isBlank (c : Char) : Bool :=
  inRanges blankRanges c

/-- A character sequence without the blank characters at its two ends. -/
def trimChars (cs : List Char) : List Char :=
  ((cs.dropWhile isBlank).reverse.dropWhile isBlank).reverse

/-- A text without the blank characters at its two ends. -/
def trim (s : String) : String :=
  String.ofList (trimChars s.toList)

/-- The texts with no character other than blank ones. -/
def isBlankText (s : String) : Bool :=
  s.toList.all isBlank

end TemplateLint.Text
