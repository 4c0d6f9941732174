import TemplateLint.Number.Power

/-!
# Binary floating point

Finite binary floating-point numbers of 64 bits.  Each is a sign and a whole number of
units of `2 ^ -1074`, the least positive one, so that every operation is exact
arithmetic on natural numbers followed by one rounding: to the nearest number of at
most 53 significant bits, and to the even neighbour from half-way.
-/

namespace TemplateLint

/-- A finite binary floating-point number: the sign and the magnitude in units of
`2 ^ -1074`. -/
structure Binary64 where
  negative : Bool
  units : Nat
deriving DecidableEq, Repr, Inhabited

namespace Binary64

/-- The binary logarithm of the number of units in one. -/
def unitBits : Nat := 1074

/-- The number of significant bits. -/
def precision : Nat := 53

/-- The least number of units that is too large to be finite. -/
def overflowUnits : Nat := twoTo (1024 + unitBits)

/-- The number of low bits that a magnitude of the given units cannot use. -/
def spareBits (units : Nat) : Nat := (units.log2 + 1) - precision

/-- The quotient of two natural numbers rounded to the nearest natural number, and to
the even one from half-way. -/
def roundDiv (num den : Nat) : Nat :=
  let quotient := num / den
  let twice := 2 * (num % den)
  if den < twice || (twice == den && quotient % 2 == 1) then quotient + 1 else quotient

/-- The magnitude nearest to `num / den`, in units. -/
def roundUnits (num den : Nat) : Nat :=
  let scaled := num * twoTo unitBits
  let spare := spareBits (scaled / den)
  roundDiv scaled (den * twoTo spare) * twoTo spare

/-- The number nearest to `num / den` with the given sign, unless it is too large. -/
def ofRatio? (negative : Bool) (num den : Nat) : Option Binary64 :=
  let units := roundUnits num den
  if units < overflowUnits then some ⟨negative, units⟩ else none

/-- The positive number nearest to a natural number, unless it is too large. -/
def ofNat? (n : Nat) : Option Binary64 := ofRatio? false n 1

/-- The number with the sign changed. -/
def neg (x : Binary64) : Binary64 := { x with negative := !x.negative }

/-- The rounded product of two magnitudes, unless it is too large. -/
def mul? (x y : Binary64) : Option Binary64 :=
  ofRatio? (x.negative != y.negative) (x.units * y.units) (twoTo (unitBits + unitBits))

/-- The rounded quotient of two magnitudes, unless it is too large. -/
def div? (x y : Binary64) : Option Binary64 :=
  ofRatio? (x.negative != y.negative) x.units y.units

/-- The number nearest to a power of ten, unless it is too large. -/
def tenPow? (n : Nat) : Option Binary64 := ofNat? (tenTo n)

/-- The number nearest to `digits * 10 ^ exponent`, unless it is too large.  Exponents
far outside the range are settled by the number of digits alone. -/
def ofDecimal? (negative : Bool) (digits : Nat) (exponent : Int) : Option Binary64 :=
  let size : Int := (Nat.toDigits 10 digits).length
  if digits = 0 then some ⟨negative, 0⟩
  else if 310 < size + exponent then none
  else if size + exponent < -330 then some ⟨negative, 0⟩
  else if 0 ≤ exponent then ofRatio? negative (digits * tenTo exponent.toNat) 1
  else ofRatio? negative digits (tenTo (-exponent).toNat)

end Binary64

end TemplateLint
