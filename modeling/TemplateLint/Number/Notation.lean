import TemplateLint.Number.Shortest

/-!
# Decimal notation

The text of a floating-point number: its shortest digits, with a point between them
while the exponent of the first digit lies between -5 and 15, and with an exponent of
explicit sign otherwise.  The positional form always has a digit on both sides of the
point, so that the text of a floating-point number never reads as that of an integer.
-/

namespace TemplateLint.Binary64

/-- The least exponent of the first digit that is written positionally. -/
def leastPositional : Int := -5

/-- The greatest exponent of the first digit that is written positionally. -/
def greatestPositional : Int := 15

/-- The decimal digits of a natural number. -/
def digitChars (n : Nat) : List Char := Nat.toDigits 10 n

/-- The positional form of a decimal whose first digit has the given exponent. -/
def positional (digits : List Char) (lead : Int) : List Char :=
  if lead < 0 then
    '0' :: '.' :: List.replicate (-lead - 1).toNat '0' ++ digits
  else
    let whole := lead.toNat + 1
    if digits.length ≤ whole then
      digits ++ List.replicate (whole - digits.length) '0' ++ ['.', '0']
    else digits.take whole ++ '.' :: digits.drop whole

/-- The form with an exponent of a decimal whose first digit has the given exponent. -/
def scientific (digits : List Char) (lead : Int) : List Char :=
  let mantissa :=
    match digits with
    | d :: e :: rest => d :: '.' :: e :: rest
    | short => short
  mantissa ++ 'e' :: (if lead < 0 then '-' else '+') :: digitChars lead.natAbs

/-- The characters of the text of a magnitude. -/
def magnitudeChars (units : Nat) : List Char :=
  if units = 0 then ['0', '.', '0']
  else
    let d := shortest units
    let digits := digitChars d.digits
    let lead : Int := d.exponent + (digits.length : Int) - 1
    if leastPositional ≤ lead ∧ lead ≤ greatestPositional then positional digits lead
    else scientific digits lead

/-- The text of a number. -/
def toText (x : Binary64) : String :=
  String.ofList ((if x.negative then ['-'] else []) ++ magnitudeChars x.units)

end TemplateLint.Binary64
