import TemplateLint.Text.Composition
import TemplateLint.Text.Direction
import TemplateLint.Text.Joining
import TemplateLint.Uri.Folding
import TemplateLint.Uri.Percent
import TemplateLint.Uri.Punycode

/-!
# Names of hosts

The written form of the name of a host.  Escapes are decoded and characters are folded and
composed; the labels between dots that are not ASCII are then written in Punycode.  A label in
Punycode has to denote a label that folding leaves alone.  A label does not start with a
combining mark, its joiners stand where they have a meaning, and if there is a label that is
written from right to left, each label has one direction.
-/

namespace TemplateLint.Uri.Name

open Text

/-- The characters that stand in no name. -/
def isForbidden (c : Char) : Bool :=
  c.toNat ≤ 0x20 || c.toNat = 0x7F ||
    ['#', '/', ':', '<', '>', '?', '@', '[', '\\', ']', '^', '|', '%'].contains c

/-- The mark at the start of a label in Punycode. -/
def mark : List Char := ['x', 'n', '-', '-']

/-- The joiner of characters. -/
def joiner : Char := '\u200d'

/-- The sign that keeps characters from being joined. -/
def nonJoiner : Char := '\u200c'

/-- The combining class of the signs that take the vowel from a consonant. -/
def viramaClass : Nat := 9

/-- Whether a joiner has a meaning after the characters before it, which come in reverse,
and before those after it. -/
def joinsBetween (c : Char) (before after : List Char) : Bool :=
  (before.head?.any fun p => combiningClass p = viramaClass)
    || (c == nonJoiner
      && (before.dropWhile isTransparent).head?.any joinsNext
      && (after.dropWhile isTransparent).head?.any joinsPrevious)

/-- Whether all joiners have a meaning, after the characters before them in reverse. -/
def joinersHold (before : List Char) : List Char → Bool
  | [] => true
  | c :: rest =>
    (if c = joiner ∨ c = nonJoiner then joinsBetween c before rest else true)
      && joinersHold (c :: before) rest

/-- Whether a label that is not ASCII may stand in a name. -/
def isLabel (cs : List Char) : Bool := !cs.head?.any isCombining && joinersHold [] cs

/-- A label: the characters that it denotes, and its written form. -/
structure Label where
  denoted : List Char
  written : List Char

/-- The label of folded characters. -/
def Label.ofFolded? (cs : List Char) : Option Label :=
  if mark.isPrefixOf cs then do
    let denoted ← ofPunycode? (cs.drop mark.length)
    if denoted.all isBasic || !isLabel denoted then none
    else if (foldAll? denoted).map compose = some denoted then some ⟨denoted, cs⟩
    else none
  else if cs.all isBasic then some ⟨cs, cs⟩
  else if isLabel cs then some ⟨cs, mark ++ punycode cs⟩
  else none

/-- Whether labels have a direction where they need one. -/
def directionsHold (labels : List Label) : Bool :=
  let directions := (labels.map fun l => l.denoted.map Direction.of).filter (· ≠ [])
  !(directions.any fun label => label.any Direction.isRightward)
    || directions.all Direction.isLabel

/-- The written form of a name, if it is one. -/
def ofWritten? (cs : List Char) : Option (List Char) := do
  let name ← decode? (Uri.decode (encodeChars cs))
  let folded ← foldAll? name.toList
  let labels ← ((compose folded).splitOn '.').mapM Label.ofFolded?
  if labels.any fun l => l.denoted.any isForbidden || l.written.any isForbidden then none
  else if directionsHold labels then some (['.'].intercalate (labels.map Label.written))
  else none

end TemplateLint.Uri.Name
