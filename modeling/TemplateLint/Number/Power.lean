/-!
# Powers

Powers of two and of ten, and the ranges of the integers that a number of bits holds.
-/

namespace TemplateLint

/-- A power of two. -/
def twoTo (n : Nat) : Nat := Nat.pow 2 n

/-- A power of ten. -/
def tenTo (n : Nat) : Nat := Nat.pow 10 n

/-- Whether an integer is a natural number of so many bits. -/
def isWord (bits : Nat) (i : Int) : Bool := 0 ≤ i && i < twoTo bits

/-- Whether an integer fits into so many bits and one more for its sign. -/
def isSigned (bits : Nat) (i : Int) : Bool := -(twoTo bits) ≤ i && i < twoTo bits

end TemplateLint
