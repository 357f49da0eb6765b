/-! Rounding: the binary fraction nearest to a quotient, and the decimal of some length nearest to a binary fraction. -/

namespace ImageHeader

namespace Rounded

/-- A quotient of natural numbers rounded to the nearest one, and a half to the even neighbour. -/
def quotient (numerator denominator : Nat) : Nat :=
  let floor := numerator / denominator
  -- The rest is compared with half of the divisor without leaving the natural numbers.
  let twice := numerator % denominator * 2
  if twice < denominator then floor
  else if denominator < twice then floor + 1
  else floor + floor % 2

/-- A binary fraction: a natural number times a power of two. -/
structure Binary where
  /-- The natural number. -/
  mantissa : Nat
  /-- The power of two. -/
  power : Int
  deriving DecidableEq, Repr

/-- The numerator of a binary fraction. -/
def Binary.numerator (binary : Binary) : Nat := binary.mantissa * Nat.pow 2 binary.power.toNat

/-- The denominator of a binary fraction. -/
def Binary.denominator (binary : Binary) : Nat := Nat.pow 2 (-binary.power).toNat

/-- The number of bits of a mantissa. -/
def precision : Nat := 53

/-- The least power of two of a fraction's last bit. -/
def leastPower : Int := -1074

/-- The power of two that all fractions lie below. -/
def limitPower : Int := 1024

/-- The power of two of the first bit of a positive quotient. -/
def firstBit (numerator denominator : Nat) : Int :=
  -- The bits of both sides give the power or one too many.
  let guess : Int := (numerator.log2 : Int) - denominator.log2
  let reached := denominator * Nat.pow 2 guess.toNat ≤ numerator * Nat.pow 2 (-guess).toNat
  if reached then guess else guess - 1

/-- The binary fraction nearest to a quotient, and none when it is too large. -/
def nearest? (numerator denominator : Nat) : Option Binary :=
  if numerator = 0 then some ⟨0, leastPower⟩
  else
    -- Near zero the last bit may not count less than the least power, so fractions there have fewer bits.
    let power := max (firstBit numerator denominator - (precision - 1)) leastPower
    let mantissa := quotient (numerator * Nat.pow 2 (-power).toNat) (denominator * Nat.pow 2 power.toNat)
    -- Rounding up may take one more bit.
    let carried := mantissa = Nat.pow 2 precision
    let binary : Binary := if carried then ⟨mantissa / 2, power + 1⟩ else ⟨mantissa, power⟩
    if limitPower < binary.power + precision then none else some binary

/-- The digits of a binary fraction with some places after the point, as one number. -/
def Binary.atPlaces (binary : Binary) (places : Int) : Nat :=
  quotient (binary.numerator * Nat.pow 10 places.toNat) (binary.denominator * Nat.pow 10 (-places).toNat)

/-- The power of ten of the first digit of a positive quotient, from a guess that is not too small. -/
def firstDigit (numerator denominator : Nat) : Nat → Int → Int
  | 0, guess => guess
  | fuel + 1, guess =>
    let reached := denominator * Nat.pow 10 guess.toNat ≤ numerator * Nat.pow 10 (-guess).toNat
    if reached then guess else firstDigit numerator denominator fuel (guess - 1)

/-- The digits of a binary fraction, some of them after the first one, and the power of ten of the first one. -/
def Binary.scientific (binary : Binary) (places : Nat) : List Char × Int :=
  if binary.mantissa = 0 then (List.replicate (places + 1) '0', 0)
  else
    let power := firstDigit binary.numerator binary.denominator 700 320
    let digits := Nat.toDigits 10 (binary.atPlaces (places - power))
    -- Rounding up may take one more digit, which is then a zero at the end.
    if places + 1 < digits.length then (digits.dropLast, power + 1) else (digits, power)

/-- The digits of a binary fraction before and after the point. -/
def Binary.fixed (binary : Binary) (places : Nat) : List Char × List Char :=
  let digits := Nat.toDigits 10 (binary.atPlaces places)
  let padded := List.replicate (places + 1 - digits.length) '0' ++ digits
  padded.splitAt (padded.length - places)

end Rounded

end ImageHeader
