import TemplateLint.Json.Fault
import TemplateLint.Text.Utf8

/-!
# Reading JSON text

The strict grammar of JSON.  A reader takes the characters that remain and gives what
it read and the characters after it, or the first fault in reading order.  Blank
characters are space, tab, line feed and carriage return; arrays and objects nest to a
depth of at most 127.  An integer that fits neither the signed nor the unsigned words
of 64 bits, and every number with a point or an exponent, is a floating-point number:
its digits that fit a word of 64 bits, scaled by a power of ten with a rounding at each
of the two steps.
-/

namespace TemplateLint.Json

/-- The result of a reader: what was read and the remaining characters. -/
abbrev Outcome (α : Type) : Type := Except Fault (α × List Char)

/-- A reader of remaining characters. -/
abbrev Reader (α : Type) : Type := List Char → Except Fault (α × List Char)

/-- The depth to which arrays and objects may nest, plus one. -/
def depthLimit : Nat := 128

/-- The blank characters between tokens. -/
def isBlank (c : Char) : Bool := c == ' ' || c == '\t' || c == '\n' || c == '\r'

/-- The characters from the first one on that is not blank. -/
def skipBlank (cs : List Char) : List Char := cs.dropWhile isBlank

/-- The rest of a word. -/
def word : List Char → Reader Unit
  | [], cs => .ok ((), cs)
  | _ :: _, [] => .error .endInValue
  | w :: ws, c :: cs => if w = c then word ws cs else .error .expectedWord

/-! ### Numbers -/

/-- The greatest significand that is kept digit by digit. -/
def significandLimit : Nat := twoTo 64 - 1

/-- The greatest magnitude of an exponent that is kept digit by digit. -/
def exponentLimit : Nat := twoTo 31 - 1

/-- The value of a decimal digit. -/
def digit? (c : Char) : Option Nat :=
  if c.isDigit then some (c.toNat - '0'.toNat) else none

/-- Digits appended to a number as long as it does not pass the limit: the number, how
many digits were taken, and the characters after them. -/
def takeDigits (limit : Nat) : Nat → Nat → List Char → Nat × Nat × List Char
  | value, count, [] => (value, count, [])
  | value, count, c :: cs =>
    match digit? c with
    | some d =>
      if value * 10 + d ≤ limit then takeDigits limit (value * 10 + d) (count + 1) cs
      else (value, count, c :: cs)
    | none => (value, count, c :: cs)

/-- The number of digits at the start, and the characters after them. -/
def dropDigits : Nat → List Char → Nat × List Char
  | count, [] => (count, [])
  | count, c :: cs => if c.isDigit then dropDigits (count + 1) cs else (count, c :: cs)

/-- The greatest power of ten within the range of the format. -/
def greatestPower : Nat := 308

/-- A magnitude times the power of ten of an exponent, unless it is too large.  Powers
below the range of the format are applied in steps, whose number the fuel bounds, until
nothing is left of the magnitude. -/
def scaleWithin : Nat → Binary64 → Int → Option Binary64
  | 0, _, _ => none
  | fuel + 1, magnitude, exponent =>
    if exponent.natAbs ≤ greatestPower then
      Binary64.tenPow? exponent.natAbs >>= fun power =>
        if 0 ≤ exponent then magnitude.mul? power else magnitude.div? power
    else if magnitude.units = 0 then some magnitude
    else if 0 ≤ exponent then none
    else
      Binary64.tenPow? greatestPower >>= fun power =>
        magnitude.div? power >>= fun smaller =>
          scaleWithin fuel smaller (exponent + greatestPower)

/-- A magnitude times a power of ten, unless it is too large. -/
def scale? (magnitude : Binary64) (exponent : Int) : Option Binary64 :=
  scaleWithin (exponent.natAbs / greatestPower + 1) magnitude exponent

/-- The floating-point number with the given sign, significand and exponent of ten. -/
def double (positive : Bool) (significand : Nat) (exponent : Int) (rest : List Char) :
    Outcome Number :=
  match Binary64.ofNat? significand >>= fun m => scale? m exponent with
  | some x => .ok (.double (if positive then x else x.neg), rest)
  | none => .error .numberTooLarge

/-- A number from its exponent part on, after the letter that starts it. -/
def exponentPart (positive : Bool) (significand : Nat) (start : Int) : Reader Number :=
  fun cs =>
    let (up, cs) :=
      match cs with
      | '+' :: rest => (true, rest)
      | '-' :: rest => (false, rest)
      | _ => (true, cs)
    match cs with
    | [] => .error .endInValue
    | c :: _ =>
      if c.isDigit then
        let (exponent, _, rest) := takeDigits exponentLimit 0 0 cs
        let (dropped, after) := dropDigits 0 rest
        if dropped = 0 then
          double positive significand (if up then start + exponent else start - exponent) rest
        else if significand ≠ 0 ∧ up then .error .numberTooLarge
        else .ok (.double ⟨!positive, 0⟩, after)
      else .error .invalidNumber

/-- A floating-point number of which all but a possible exponent part was read. -/
def optionalExponent (positive : Bool) (significand : Nat) (exponent : Int) :
    Reader Number
  | 'e' :: rest => exponentPart positive significand exponent rest
  | 'E' :: rest => exponentPart positive significand exponent rest
  | rest => double positive significand exponent rest

/-- A number from its fraction part on, after the point. -/
def fractionPart (positive : Bool) (significand : Nat) (exponent : Int) : Reader Number :=
  fun cs =>
    let (significand, count, rest) := takeDigits significandLimit significand 0 cs
    let (dropped, after) := dropDigits 0 rest
    if dropped = 0 ∧ count = 0 then
      match rest with
      | [] => .error .endInValue
      | _ :: _ => .error .invalidNumber
    else optionalExponent positive significand (exponent - count) after

/-- An integer, or the floating-point number that stands for one without a word. -/
def wholeNumber (positive : Bool) (significand : Nat) (rest : List Char) : Outcome Number :=
  if positive then .ok (.integer significand, rest)
  else if 0 < significand ∧ significand ≤ twoTo 63 then .ok (.integer (-significand), rest)
  else double false significand 0 rest

/-- A number after its sign, if it has one. -/
def unsignedNumber (positive : Bool) : Reader Number
  | [] => .error .endInValue
  | c :: cs =>
    if c = '0' then
      match cs with
      | '.' :: rest => fractionPart positive 0 0 rest
      | 'e' :: rest => exponentPart positive 0 0 rest
      | 'E' :: rest => exponentPart positive 0 0 rest
      | d :: _ => if d.isDigit then .error .invalidNumber else wholeNumber positive 0 cs
      | [] => wholeNumber positive 0 []
    else if c.isDigit then
      let (significand, _, rest) := takeDigits significandLimit 0 0 (c :: cs)
      let (dropped, after) := dropDigits 0 rest
      match after with
      | '.' :: rest => fractionPart positive significand dropped rest
      | 'e' :: rest => exponentPart positive significand dropped rest
      | 'E' :: rest => exponentPart positive significand dropped rest
      | _ =>
        if dropped = 0 then wholeNumber positive significand after
        else double positive significand dropped after
    else .error .invalidNumber

/-! ### Strings -/

/-- The value of a hexadecimal digit. -/
def hexDigit? (c : Char) : Option Nat :=
  if c.isDigit then some (c.toNat - '0'.toNat)
  else if 'a' ≤ c ∧ c ≤ 'f' then some (c.toNat - 'a'.toNat + 10)
  else if 'A' ≤ c ∧ c ≤ 'F' then some (c.toNat - 'A'.toNat + 10)
  else none

/-- The value of four hexadecimal digits. -/
def hexUnit? (a b c d : Char) : Option Nat := do
  return (← hexDigit? a) * 4096 + (← hexDigit? b) * 256 + (← hexDigit? c) * 16
    + (← hexDigit? d)

/-- The first half of a pair of surrogates. -/
def isLeadingSurrogate (n : Nat) : Bool := 0xD800 ≤ n && n ≤ 0xDBFF

/-- The second half of a pair of surrogates. -/
def isTrailingSurrogate (n : Nat) : Bool := 0xDC00 ≤ n && n ≤ 0xDFFF

/-- The character of a pair of surrogates. -/
def joinSurrogates (lead trail : Nat) : Char :=
  Char.ofNat ((lead - 0xD800) * 1024 + (trail - 0xDC00) + 0x10000)

/-- The fault of a hexadecimal escape with fewer than four characters after it: the end
of the text comes first if there are fewer than four bytes. -/
def shortEscape (cs : List Char) : Fault :=
  if (Text.encodeChars cs).length < 4 then .endInString else .invalidEscape

/-- The character of an escape of one letter. -/
def letterEscape? (c : Char) : Option Char :=
  match c with
  | '"' => some '"'
  | '\\' => some '\\'
  | '/' => some '/'
  | 'b' => some '\x08'
  | 'f' => some '\x0c'
  | 'n' => some '\n'
  | 'r' => some '\r'
  | 't' => some '\t'
  | _ => none

/-- The characters of a string after its opening quote, up to and including the closing
one; the characters read so far are in reverse order. -/
def stringRest (read : List Char) : List Char → Outcome String
  | [] => .error .endInString
  | '"' :: rest => .ok (String.ofList read.reverse, rest)
  | '\\' :: 'u' :: a :: b :: c :: d :: rest =>
    match hexUnit? a b c d with
    | none => .error .invalidEscape
    | some lead =>
      if isTrailingSurrogate lead then .error .lonelySurrogate
      else if isLeadingSurrogate lead then
        match rest with
        | '\\' :: 'u' :: a :: b :: c :: d :: rest =>
          match hexUnit? a b c d with
          | none => .error .invalidEscape
          | some trail =>
            if isTrailingSurrogate trail then
              stringRest (joinSurrogates lead trail :: read) rest
            else .error .lonelySurrogate
        | '\\' :: 'u' :: rest => .error (shortEscape rest)
        | ['\\'] => .error .endInString
        | [] => .error .endInString
        | _ => .error .unfinishedSurrogate
      else stringRest (Char.ofNat lead :: read) rest
  | '\\' :: 'u' :: rest => .error (shortEscape rest)
  | ['\\'] => .error .endInString
  | '\\' :: c :: rest =>
    match letterEscape? c with
    | some e => stringRest (e :: read) rest
    | none => .error .invalidEscape
  | c :: rest => if c.toNat < 0x20 then .error .controlCharacter else stringRest (c :: read) rest

/-! ### Arrays and objects -/

/-- The characters where the next element of an array starts, or nothing where the
closing bracket stands. -/
def nextElement (first : Bool) (cs : List Char) : Except Fault (Option (List Char)) :=
  match skipBlank cs with
  | [] => .error .endInList
  | ']' :: _ => .ok none
  | c :: rest =>
    if first then .ok (some (c :: rest))
    else if c = ',' then
      match skipBlank rest with
      | [] => .error .endInValue
      | ']' :: _ => .error .trailingComma
      | after => .ok (some after)
    else .error .expectedCommaOrBracket

/-- The characters after the opening quote of the next key of an object, or nothing
where the closing brace stands. -/
def nextKey (first : Bool) (cs : List Char) : Except Fault (Option (List Char)) :=
  match skipBlank cs with
  | [] => .error .endInObject
  | '\x7d' :: _ => .ok none
  | c :: rest =>
    if first then
      if c = '"' then .ok (some rest) else .error .keyNotString
    else if c = ',' then
      match skipBlank rest with
      | [] => .error .endInValue
      | '"' :: after => .ok (some after)
      | '\x7d' :: _ => .error .trailingComma
      | _ => .error .keyNotString
    else .error .expectedCommaOrBrace

/-- The colon between a key and its value. -/
def colon : Reader Unit := fun cs =>
  match skipBlank cs with
  | [] => .error .endInObject
  | ':' :: rest => .ok ((), rest)
  | _ => .error .expectedColon

/-- The closing bracket of an array whose elements were read. -/
def endList : Reader Unit := fun cs =>
  match skipBlank cs with
  | [] => .error .endInList
  | ']' :: rest => .ok ((), rest)
  | ',' :: rest =>
    match skipBlank rest with
    | ']' :: _ => .error .trailingComma
    | _ => .error .trailingCharacters
  | _ => .error .trailingCharacters

/-- The closing brace of an object whose members were read. -/
def endObject : Reader Unit := fun cs =>
  match skipBlank cs with
  | [] => .error .endInObject
  | '\x7d' :: rest => .ok ((), rest)
  | ',' :: _ => .error .trailingComma
  | _ => .error .trailingCharacters

/-- The elements of an array up to its closing bracket; those read so far are in reverse
order, and the fuel bounds their number. -/
def elements (element : Reader α) : Nat → Bool → List α → Reader (List α)
  | 0, _, _, _ => .error .endInList
  | fuel + 1, first, read, cs => do
    match ← nextElement first cs with
    | none => return (read.reverse, skipBlank cs)
    | some start =>
      let (item, rest) ← element start
      elements element fuel false (item :: read) rest

/-- The members of an object up to its closing brace, collected by a function of the
key; the fuel bounds their number. -/
def collect (member : String → σ → Reader σ) : Nat → Bool → σ → Reader σ
  | 0, _, _, _ => .error .endInObject
  | fuel + 1, first, state, cs => do
    match ← nextKey first cs with
    | none => return (state, skipBlank cs)
    | some start =>
      let (key, rest) ← stringRest [] start
      let (state, rest) ← member key state rest
      collect member fuel false state rest

/-- An array after its opening bracket. -/
def listRest (element : Reader α) : Reader (List α) := fun cs => do
  let (items, rest) ← elements element (cs.length + 1) true [] cs
  let ((), rest) ← endList rest
  return (items, rest)

/-- An object after its opening brace, with all its members. -/
def membersRest (element : Reader Value) : Reader Members := fun cs => do
  let member (key : String) (read : Members) : Reader Members := fun cs => do
    let ((), rest) ← colon cs
    let (value, rest) ← element rest
    return ((key, value) :: read, rest)
  let (read, rest) ← collect member (cs.length + 1) true [] cs
  let ((), rest) ← endObject rest
  return (read.reverse, rest)

/-- A value in which keys may be repeated, and of which arrays and objects may nest to less
than the given depth. -/
def plainValue : Nat → Reader Value := fun depth cs =>
  match skipBlank cs with
  | [] => .error .endInValue
  | 'n' :: rest => (word ['u', 'l', 'l'] rest).map fun (_, rest) => (.null, rest)
  | 't' :: rest => (word ['r', 'u', 'e'] rest).map fun (_, rest) => (.bool true, rest)
  | 'f' :: rest => (word ['a', 'l', 's', 'e'] rest).map fun (_, rest) => (.bool false, rest)
  | '-' :: rest => (unsignedNumber false rest).map fun (n, rest) => (.number n, rest)
  | '"' :: rest => (stringRest [] rest).map fun (s, rest) => (.text s, rest)
  | '[' :: rest =>
    match depth with
    | inner + 2 =>
      (listRest (plainValue (inner + 1)) rest).map fun (items, rest) => (.list items, rest)
    | _ => .error .tooDeep
  | '\x7b' :: rest =>
    match depth with
    | inner + 2 =>
      (membersRest (plainValue (inner + 1)) rest).map fun (members, rest) =>
        (.object members, rest)
    | _ => .error .tooDeep
  | c :: rest =>
    if c.isDigit then (unsignedNumber true (c :: rest)).map fun (n, rest) => (.number n, rest)
    else .error .expectedValue

/-- A value of which arrays and objects may nest to less than the given depth; of members
with the same key, the last one counts. -/
def value : Nat → Reader Value := fun depth cs =>
  (plainValue depth cs).map fun (v, rest) => (v.merged, rest)

/-- What a reader makes of a whole text, nothing but blank characters following. -/
def readWhole (reader : Reader α) (s : String) : Except Fault α := do
  let (result, rest) ← reader s.toList
  match skipBlank rest with
  | [] => return result
  | _ :: _ => throw .trailingCharacters

/-- The value that a text denotes. -/
def parse (s : String) : Except Fault Value := readWhole (value depthLimit) s

end TemplateLint.Json
