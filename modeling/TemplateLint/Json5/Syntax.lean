import TemplateLint.Json.Reader
import TemplateLint.Text.Category

/-!
# The grammar of JSON5

The structure of a JSON5 text: which characters are tokens and how they nest, before
any meaning is given to escapes and numbers.  Blank characters and comments may stand
between tokens.  A word or a number needs no boundary after it: the grammar takes the
longest one and goes on with the next token.
-/

namespace TemplateLint.Json5

/-- The unit of a string or an identifier: a character as it stands, a character after a
backslash, the null escape, or an escape of two or four hexadecimal digits. -/
inductive Piece where
  | literal (c : Char)
  | escaped (c : Char)
  | nul
  | hex (a b : Char)
  | unicode (a b c d : Char)
deriving DecidableEq

/-- The body of a number. -/
inductive Magnitude where
  | hexadecimal (digits : List Char)
  | decimal (whole : List Char) (fraction : Option (List Char))
    (exponent : Option (Bool × List Char))
  | infinity
  | nan
deriving DecidableEq

/-- The structure of a JSON5 value. -/
inductive Tree where
  | null
  | bool (value : Bool)
  | text (pieces : List Piece)
  | number (sign : Option Bool) (magnitude : Magnitude)
  | list (items : List Tree)
  | object (pairs : List (List Piece × Tree))

/-- A recogniser: what was recognised and the characters after it. -/
abbrev Recogniser (α : Type) : Type := List Char → Option (α × List Char)

/-- The characters that end a line. -/
def isLineEnd (c : Char) : Bool :=
  c == '\n' || c == '\r' || c == '\u2028' || c == '\u2029'

/-- The blank characters. -/
def isBlank (c : Char) : Bool :=
  c == '\t' || c == '\x0b' || c == '\x0c' || c == ' ' || c == '\u00a0' || c == '\ufeff'
    || Text.isSpace c || isLineEnd c

/-- The characters after the end of a block comment. -/
def afterBlock? : List Char → Option (List Char)
  | [] => none
  | '*' :: '/' :: rest => some rest
  | _ :: rest => afterBlock? rest

/-- The characters after blank characters and comments; the fuel bounds the number of
both. -/
def skipWithin : Nat → List Char → List Char
  | 0, cs => cs
  | fuel + 1, cs =>
    match cs with
    | '/' :: '*' :: rest =>
      match afterBlock? rest with
      | some after => skipWithin fuel after
      | none => cs
    | '/' :: '/' :: rest => skipWithin fuel (rest.dropWhile fun c => !isLineEnd c)
    | c :: rest => if isBlank c then skipWithin fuel rest else cs
    | [] => []

/-- The characters after blank characters and comments. -/
def skip (cs : List Char) : List Char := skipWithin (cs.length + 1) cs

/-- The characters after a word, if they start with it. -/
def afterWord? (w : List Char) (cs : List Char) : Option (List Char) :=
  if w.isPrefixOf cs then some (cs.drop w.length) else none

/-! ### Numbers -/

/-- The hexadecimal digits. -/
def isHexDigit (c : Char) : Bool := (Json.hexDigit? c).isSome

/-- An exponent: whether it is negative, and its digits. -/
def exponent? : Recogniser (Bool × List Char)
  | c :: cs =>
    if c = 'e' ∨ c = 'E' then
      let (negative, cs) :=
        match cs with
        | '+' :: rest => (false, rest)
        | '-' :: rest => (true, rest)
        | _ => (false, cs)
      match cs.takeWhile Char.isDigit with
      | [] => none
      | digits => some ((negative, digits), cs.dropWhile Char.isDigit)
    else none
  | [] => none

/-- The optional exponent of a decimal number. -/
def withExponent (whole : List Char) (fraction : Option (List Char)) (cs : List Char) :
    Magnitude × List Char :=
  match exponent? cs with
  | some (exponent, rest) => (.decimal whole fraction (some exponent), rest)
  | none => (.decimal whole fraction none, cs)

/-- A decimal number after its whole part. -/
def afterWhole (whole : List Char) : List Char → Magnitude × List Char
  | '.' :: rest =>
    withExponent whole (some (rest.takeWhile Char.isDigit)) (rest.dropWhile Char.isDigit)
  | cs => withExponent whole none cs

/-- A decimal number. -/
def decimal? : Recogniser Magnitude
  | '.' :: rest =>
    match rest.takeWhile Char.isDigit with
    | [] => none
    | digits => some (withExponent [] (some digits) (rest.dropWhile Char.isDigit))
  | '0' :: rest => some (afterWhole ['0'] rest)
  | c :: rest =>
    if c.isDigit then
      some (afterWhole (c :: rest.takeWhile Char.isDigit) (rest.dropWhile Char.isDigit))
    else none
  | [] => none

/-- A hexadecimal number. -/
def hexadecimal? : Recogniser Magnitude
  | '0' :: x :: rest =>
    if x = 'x' ∨ x = 'X' then
      match rest.takeWhile isHexDigit with
      | [] => none
      | digits => some (.hexadecimal digits, rest.dropWhile isHexDigit)
    else none
  | _ => none

/-- A number without its sign. -/
def magnitude? : Recogniser Magnitude := fun cs =>
  hexadecimal? cs <|> decimal? cs
    <|> (afterWord? "Infinity".toList cs).map (fun rest => (.infinity, rest))
    <|> (afterWord? "NaN".toList cs).map (fun rest => (.nan, rest))

/-- A number: whether it has a sign and which, and its magnitude. -/
def number? : Recogniser Tree
  | '+' :: rest => (magnitude? rest).map fun (m, rest) => (.number (some false) m, rest)
  | '-' :: rest => (magnitude? rest).map fun (m, rest) => (.number (some true) m, rest)
  | cs => (magnitude? cs).map fun (m, rest) => (.number none m, rest)

/-! ### Strings and identifiers -/

/-- Four hexadecimal digits. -/
def unicode? : Recogniser Piece
  | a :: b :: c :: d :: rest =>
    if isHexDigit a && isHexDigit b && isHexDigit c && isHexDigit d then
      some (.unicode a b c d, rest)
    else none
  | _ => none

/-- The escape after a backslash; an escaped line end is no piece at all. -/
def escape? : Recogniser (Option Piece)
  | '\r' :: '\n' :: rest => some (none, rest)
  | '0' :: rest => some (some .nul, rest)
  | 'x' :: a :: b :: rest =>
    if isHexDigit a && isHexDigit b then some (some (.hex a b), rest) else none
  | 'u' :: rest => (unicode? rest).map fun (piece, rest) => (some piece, rest)
  | c :: rest =>
    if isLineEnd c then some (none, rest)
    else if c.isDigit ∨ c = 'x' then none
    else some (some (.escaped c), rest)
  | [] => none

/-- The pieces of a string up to its closing quote; those recognised so far are in
reverse order, and the fuel bounds their number. -/
def pieces? (quote : Char) : Nat → List Piece → Recogniser (List Piece)
  | 0, _, _ => none
  | _, _, [] => none
  | fuel + 1, read, c :: rest =>
    if c = quote then some (read.reverse, rest)
    else if c = '\\' then
      match escape? rest with
      | some (some piece, rest) => pieces? quote fuel (piece :: read) rest
      | some (none, rest) => pieces? quote fuel read rest
      | none => none
    else if isLineEnd c then none
    else pieces? quote fuel (.literal c :: read) rest

/-- A string. -/
def string? : Recogniser (List Piece)
  | '"' :: rest => pieces? '"' (rest.length + 1) [] rest
  | '\x27' :: rest => pieces? '\x27' (rest.length + 1) [] rest
  | _ => none

/-- The characters that start an identifier. -/
def startsIdentifier (c : Char) : Bool := Text.isLetter c || c == '$' || c == '_'

/-- The characters that continue an identifier. -/
def continuesIdentifier (c : Char) : Bool :=
  startsIdentifier c || Text.isMark c || c == '\u200c' || c == '\u200d'

/-- The rest of an identifier; the pieces recognised so far are in reverse order, and
the fuel bounds their number. -/
def identifierRest : Nat → List Piece → List Char → List Piece × List Char
  | 0, read, cs => (read.reverse, cs)
  | fuel + 1, read, cs =>
    match cs with
    | '\\' :: 'u' :: rest =>
      match unicode? rest with
      | some (piece, rest) => identifierRest fuel (piece :: read) rest
      | none => (read.reverse, cs)
    | c :: rest =>
      if continuesIdentifier c then identifierRest fuel (.literal c :: read) rest
      else (read.reverse, cs)
    | [] => (read.reverse, [])

/-- An identifier. -/
def identifier? : Recogniser (List Piece)
  | '\\' :: 'u' :: rest =>
    (unicode? rest).map fun (piece, rest) => identifierRest (rest.length + 1) [piece] rest
  | c :: rest =>
    if startsIdentifier c then some (identifierRest (rest.length + 1) [.literal c] rest)
    else none
  | [] => none

/-- The key of a member. -/
def key? : Recogniser (List Piece) := fun cs => identifier? cs <|> string? cs

/-! ### Values -/

/-- The items of a list up to its closing character, with commas between them and at
most one after the last; the fuel bounds their number. -/
def items? (item : Recogniser α) (closing : Char) : Nat → List α → Recogniser (List α)
  | 0, _, _ => none
  | fuel + 1, read, cs =>
    match item cs with
    | none => none
    | some (a, rest) =>
      match skip rest with
      | ',' :: rest =>
        match skip rest with
        | c :: after =>
          if c = closing then some ((a :: read).reverse, after)
          else items? item closing fuel (a :: read) (c :: after)
        | [] => none
      | c :: after => if c = closing then some ((a :: read).reverse, after) else none
      | [] => none

/-- A list of items after its opening character. -/
def enclosed? (item : Recogniser α) (closing : Char) : Recogniser (List α) := fun cs =>
  match skip cs with
  | c :: rest =>
    if c = closing then some ([], rest)
    else items? item closing ((c :: rest).length + 1) [] (c :: rest)
  | [] => none

/-- A member of an object. -/
def pair? (value : Recogniser Tree) : Recogniser (List Piece × Tree) := fun cs => do
  let (key, rest) ← key? cs
  match skip rest with
  | ':' :: rest =>
    let (tree, rest) ← value (skip rest)
    return ((key, tree), rest)
  | _ => none

/-- A value; the fuel bounds how deep it nests. -/
def value? : Nat → Recogniser Tree
  | 0, _ => none
  | fuel + 1, cs =>
    (afterWord? "null".toList cs).map (fun rest => (.null, rest))
      <|> (afterWord? "true".toList cs).map (fun rest => (.bool true, rest))
      <|> (afterWord? "false".toList cs).map (fun rest => (.bool false, rest))
      <|> (string? cs).map (fun (pieces, rest) => (.text pieces, rest))
      <|> number? cs
      <|> match cs with
        | '\x7b' :: rest =>
          (enclosed? (pair? (value? fuel)) '\x7d' rest).map fun (pairs, rest) =>
            (.object pairs, rest)
        | '[' :: rest =>
          (enclosed? (value? fuel) ']' rest).map fun (items, rest) => (.list items, rest)
        | _ => none

/-- The structure of a whole text. -/
def recognise? (s : String) : Option Tree := do
  let cs := s.toList
  let (tree, rest) ← value? (cs.length + 1) (skip cs)
  match skip rest with
  | [] => return tree
  | _ => none

end TemplateLint.Json5
