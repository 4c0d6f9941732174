import TemplateLint.Number.Binary64

/-!
# Shortest decimal digits

The fewest decimal digits that read back as a given floating-point number, and among
those the digits nearest to it.  A decimal reads back as a number when it lies in the
number's rounding interval, which reaches half-way to the two neighbours and includes
its ends exactly when the significand is even.  If any decimal with a given number of
digits lies in the interval, one of the two decimals next to the number itself does,
so only those two are tried for one digit, two digits, and so on.
-/

namespace TemplateLint.Binary64

/-- A positive decimal `digits * 10 ^ exponent`. -/
structure Decimal where
  digits : Nat
  exponent : Int
deriving DecidableEq, Repr

/-- Numerator and denominator of a decimal. -/
def Decimal.ratio (d : Decimal) : Nat × Nat :=
  if 0 ≤ d.exponent then (d.digits * tenTo d.exponent.toNat, 1)
  else (d.digits, tenTo (-d.exponent).toNat)

/-- The rounding interval of a magnitude, in quarters of a unit: its two ends and
whether they belong to it. -/
def interval (units : Nat) : Nat × Nat × Bool :=
  let ulp := twoTo (spareBits units)
  let significand := units / ulp
  let below := if spareBits units ≠ 0 ∧ significand = twoTo (precision - 1) then ulp else 2 * ulp
  (4 * units - below, 4 * units + 2 * ulp, significand % 2 == 0)

/-- Whether a decimal reads back as the magnitude of the given units. -/
def readsBack (units : Nat) (d : Decimal) : Bool :=
  let (low, high, closed) := interval units
  let (num, den) := d.ratio
  let quarters := num * 4 * twoTo unitBits
  if closed then low * den ≤ quarters && quarters ≤ high * den
  else low * den < quarters && quarters < high * den

/-- The exponent of the leading decimal digit of a positive magnitude. -/
def leadingExponent (units : Nat) : Int :=
  let one := twoTo unitBits
  if one ≤ units then (Nat.toDigits 10 (units / one)).length - 1
  else -((Nat.toDigits 10 ((one + units - 1) / units - 1)).length : Int)

/-- The greatest whole multiple of `10 ^ exponent` that is at most the magnitude. -/
def floorDigits (units : Nat) (exponent : Int) : Nat :=
  if 0 ≤ exponent then units / (twoTo unitBits * tenTo exponent.toNat)
  else units * tenTo (-exponent).toNat / twoTo unitBits

/-- The distance of a decimal from the magnitude, over a denominator that is the same
for all decimals of one exponent. -/
def distance (units : Nat) (d : Decimal) : Nat :=
  let (num, den) := d.ratio
  ((num * twoTo unitBits : Int) - (units * den : Int)).natAbs

/-- The decimal of the given exponent nearest to the magnitude that reads back as it,
if there is one. -/
def nearest? (units : Nat) (exponent : Int) : Option Decimal :=
  let low : Decimal := ⟨floorDigits units exponent, exponent⟩
  let high : Decimal := ⟨low.digits + 1, exponent⟩
  match readsBack units low && low.digits != 0, readsBack units high with
  | true, true =>
    if distance units low < distance units high then some low
    else if distance units high < distance units low then some high
    else if low.digits % 2 = 0 then some low else some high
  | true, false => some low
  | false, true => some high
  | false, false => none

/-- A decimal without trailing zeros among its digits. -/
def Decimal.trimZeros : Nat → Decimal → Decimal
  | 0, d => d
  | fuel + 1, d =>
    if d.digits % 10 = 0 then Decimal.trimZeros fuel ⟨d.digits / 10, d.exponent + 1⟩ else d

/-- The shortest decimal that reads back as a positive magnitude. -/
def shortest (units : Nat) : Decimal :=
  let lead := leadingExponent units
  let found := (List.range 17).findSome? fun (n : Nat) => nearest? units (lead - n)
  (found.getD ⟨floorDigits units (lead - 16), lead - 16⟩).trimZeros 20

end TemplateLint.Binary64
