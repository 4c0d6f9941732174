/-!
# Packed tables

Tables of code points written as text, in words between blanks.  A table of ranges has
words such as `41-5a` or `aa`, in hexadecimal; a table of runs divides all code points, in
ascending order, into runs of one name, and has words such as `Lu*26` or `Sm`, which give
the name of a run and, unless it is one, its length.
-/

namespace TemplateLint.Text.Table

/-- The value of a hexadecimal digit. -/
def digit (c : Char) : Nat :=
  if c.isDigit then c.toNat - 0x30 else c.toNat - 0x57

/-- The number that digits in a base denote. -/
def number (base : Nat) (cs : List Char) : Nat := cs.foldl (fun n c => n * base + digit c) 0

/-- The words of a text, between blanks and line breaks. -/
def words (s : String) : List (List Char) :=
  (s.toList.splitOnP fun c => c == ' ' || c == '\n').filter (· ≠ [])

/-- The part of a word before a mark, and the part after it if there is one. -/
def cut (mark : Char) (cs : List Char) : List Char × Option (List Char) :=
  match cs.dropWhile (· ≠ mark) with
  | _ :: after => (cs.takeWhile (· ≠ mark), some after)
  | [] => (cs, none)

/-! ### Ranges -/

/-- The range that a word denotes. -/
def range (cs : List Char) : Nat × Nat :=
  match cut '-' cs with
  | (low, some high) => (number 16 low, number 16 high)
  | (only, none) => (number 16 only, number 16 only)

/-- The ranges that a text denotes. -/
def ranges (s : String) : List (Nat × Nat) := (words s).map range

/-- Membership of a code point in closed ranges. -/
def covers (ranges : List (Nat × Nat)) (n : Nat) : Bool :=
  ranges.any fun (low, high) => low ≤ n && n ≤ high

/-! ### Runs -/

/-- The run that a word denotes: its name and its length. -/
def run (cs : List Char) : String × Nat :=
  match cut '*' cs with
  | (name, some count) => (String.ofList name, number 10 count)
  | (name, none) => (String.ofList name, 1)

/-- The runs that a text denotes, with the values of their names. -/
def runs (value : String → α) (s : String) : List (α × Nat) :=
  (words s).map fun cs => (value (run cs).1, (run cs).2)

/-- The value of the run in which a place lies. -/
def find? : List (α × Nat) → Nat → Option α
  | [], _ => none
  | (a, count) :: rest, n => if n < count then some a else find? rest (n - count)

end TemplateLint.Text.Table
