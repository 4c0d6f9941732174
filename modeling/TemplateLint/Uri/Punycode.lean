/-!
# Punycode

Labels outside ASCII written in ASCII.  The characters of ASCII come first, and after a hyphen
the others in ascending order, each as the distance from the one before it in a variable
number of digits.
-/

namespace TemplateLint.Uri

/-! ### Digits -/

/-- The digit of a number below thirty-six. -/
def punycodeDigit (n : Nat) : Char :=
  if n < 26 then Char.ofNat (0x61 + n) else Char.ofNat (0x30 + (n - 26))

/-- The number of a digit. -/
def punycodeDigit? (c : Char) : Option Nat :=
  if 'a' ≤ c ∧ c ≤ 'z' then some (c.toNat - 0x61)
  else if c.isDigit then some (c.toNat - 0x30 + 26)
  else none

/-- The least value of a digit that is not the last one, from the position of the digit. -/
def threshold (bias k : Nat) : Nat :=
  if k ≤ bias then 1 else if bias + 26 ≤ k then 26 else k - bias

/-- The bias after a delta, by dividing the delta until it is small. -/
def biasAfter : Nat → Nat → Nat → Nat
  | 0, k, _ => k
  | fuel + 1, k, delta =>
    if 455 < delta then biasAfter fuel (k + 36) (delta / 35) else k + 36 * delta / (delta + 38)

/-- The adapted bias. -/
def adapt (delta count : Nat) (first : Bool) : Nat :=
  let halved := if first then delta / 700 else delta / 2
  biasAfter halved 0 (halved + halved / count)

/-- The characters of ASCII. -/
def isBasic (c : Char) : Bool := c.toNat < 0x80

/-! ### Writing -/

/-- The digits of a delta under a bias. -/
def deltaDigits (bias : Nat) : Nat → Nat → Nat → List Char
  | 0, _, _ => []
  | fuel + 1, k, q =>
    let t := threshold bias k
    if q < t then [punycodeDigit q]
    else
      punycodeDigit (t + (q - t) % (36 - t)) ::
        deltaDigits bias fuel (k + 36) ((q - t) / (36 - t))

/-- The state of writing: the delta, the bias, the number of characters that are written,
and the digits so far. -/
structure Punycode where
  delta : Nat
  bias : Nat
  count : Nat
  digits : List Char

/-- The writing of the next code point, with the number of characters that were written at
first. -/
def Punycode.next (cs : List Char) (basic : Nat) (s : Punycode) (point code : Nat) : Punycode :=
  let start : Punycode := { s with delta := s.delta + (code - point) * (s.count + 1) }
  let visited := cs.foldl (fun (s : Punycode) c =>
    if c.toNat < code then { s with delta := s.delta + 1 }
    else if c.toNat = code then
      { delta := 0
        bias := adapt s.delta (s.count + 1) (s.count = basic)
        count := s.count + 1
        digits := s.digits ++ deltaDigits s.bias (s.delta + 2) 36 s.delta }
    else s) start
  { visited with delta := visited.delta + 1 }

/-- The writing of code points in ascending order. -/
def Punycode.through (cs : List Char) (basic : Nat) : Punycode → Nat → List Nat → Punycode
  | s, _, [] => s
  | s, point, code :: rest => through cs basic (s.next cs basic point code) (code + 1) rest

/-- A label in Punycode. -/
def punycode (cs : List Char) : List Char :=
  let plain := cs.filter isBasic
  let codes := ((cs.filter fun c => !isBasic c).map Char.toNat).eraseDups.mergeSort
  let start : Punycode := ⟨0, 72, plain.length, []⟩
  plain ++ (if plain = [] then [] else ['-'])
    ++ (start.through cs plain.length 0x80 codes).digits

/-! ### Reading -/

/-- The number that the digits at the start denote under a bias, and the characters after
them; the number so far and the weight of the next digit are given. -/
def readDelta? (bias : Nat) : Nat → Nat → Nat → List Char → Option (Nat × List Char)
  | _, _, _, [] => none
  | k, weight, n, c :: rest => do
    let d ← punycodeDigit? c
    let t := threshold bias k
    if d < t then return (n + d * weight, rest)
    else readDelta? bias (k + 36) (weight * (36 - t)) (n + d * weight) rest

/-- The label that digits complete, from the code point, the position and the bias that were
reached and the characters so far; the fuel bounds the number of characters. -/
def readDigits? : Nat → Nat → Nat → Nat → List Char → List Char → Option (List Char)
  | _, _, _, _, read, [] => some read
  | 0, _, _, _, _, _ => none
  | fuel + 1, code, position, bias, read, cs => do
    let (delta, rest) ← readDelta? bias 36 1 0 cs
    let count := read.length + 1
    let reached := position + delta
    let next := code + reached / count
    if h : next.isValidChar then
      let place := reached % count
      readDigits? fuel next (place + 1) (adapt delta count (position = 0 && code = 0x80))
        (read.insertIdx place (Char.ofNatAux next h)) rest
    else none

/-- The label that a text in Punycode denotes. -/
def ofPunycode? (cs : List Char) : Option (List Char) :=
  let reversed := cs.reverse
  let plain := ((reversed.dropWhile (· ≠ '-')).drop 1).reverse
  let digits := (reversed.takeWhile (· ≠ '-')).reverse
  if !plain.all isBasic || cs.head? = some '-' && plain = [] then none
  else readDigits? digits.length 0x80 0 72 plain digits

end TemplateLint.Uri
