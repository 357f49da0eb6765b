/-! Shortest decimals: the fewest digits that lie closer to a binary fraction than to its neighbours. -/

namespace ImageHeader

/-- A decimal number: its digits as one number, times a power of ten. -/
structure Decimal where
  /-- The digits, read as a natural number. -/
  digits : Nat
  /-- The power of ten. -/
  exponent : Int
  deriving DecidableEq, Repr

namespace Decimal

/-- A positive quotient of natural numbers, with the bounds of what rounds to it. -/
structure Interval where
  /-- The numerator of the value. -/
  value : Nat
  /-- The numerator of the least number that rounds to the value. -/
  low : Nat
  /-- The numerator of the greatest number that rounds to the value. -/
  high : Nat
  /-- The common denominator. -/
  unit : Nat
  /-- Whether the bounds themselves round to the value. -/
  closed : Bool
  deriving Repr

/-- The interval of `mantissa · 2 ^ power`; below a power of two the neighbour is only half as far. -/
def Interval.ofBinary (mantissa : Nat) (power : Int) (narrow : Bool) : Interval :=
  -- Quarters of the last place keep every bound a natural number.
  let scale := Nat.pow 2 (power - 2).toNat
  { value := 4 * mantissa * scale
    low := (if narrow then 4 * mantissa - 1 else 4 * mantissa - 2) * scale
    high := (4 * mantissa + 2) * scale
    unit := Nat.pow 2 (2 - power).toNat
    closed := mantissa % 2 == 0 }

/-- The number of decimal places before the first digit of a quotient below one. -/
def leadingPlaces (value unit : Nat) : Nat → Nat
  | 0 => 0
  | fuel + 1 => if unit ≤ value then 0 else leadingPlaces (value * 10) unit fuel + 1

/-- The power of ten of the first digit. -/
def Interval.magnitude (interval : Interval) : Int :=
  if interval.unit ≤ interval.value then
    Int.ofNat (Nat.toDigits 10 (interval.value / interval.unit)).length - 1
  else -Int.ofNat (leadingPlaces interval.value interval.unit 400)

/-- Whether a decimal rounds to the value. -/
def Interval.holds (interval : Interval) (decimal : Decimal) : Bool :=
  let left := decimal.digits * Nat.pow 10 decimal.exponent.toNat * interval.unit
  let scale := Nat.pow 10 (-decimal.exponent).toNat
  -- A number halfway between two neighbours goes to the even one.
  if interval.closed then interval.low * scale ≤ left && left ≤ interval.high * scale
  else interval.low * scale < left && left < interval.high * scale

/-- The decimal with `places` digits next to the value that rounds to it, the nearer one of two. -/
def Interval.atPlaces (interval : Interval) (places : Nat) : Option Decimal :=
  let exponent := interval.magnitude - places + 1
  let above := interval.value * Nat.pow 10 (-exponent).toNat
  let below := interval.unit * Nat.pow 10 exponent.toNat
  let floor : Decimal := ⟨above / below, exponent⟩
  let ceiling : Decimal := ⟨above / below + 1, exponent⟩
  let excess := above % below
  match interval.holds floor, interval.holds ceiling with
  | false, false => none
  | true, false => some floor
  | false, true => some ceiling
  -- Both round to the value: the nearer one counts, and of two as near the even one.
  | true, true =>
    if excess * 2 < below then some floor
    else if below < excess * 2 then some ceiling
    else if floor.digits % 2 = 0 then some floor
    else some ceiling

/-- The decimal with the fewest digits that rounds to the value. -/
def Interval.shortest (interval : Interval) : Decimal :=
  -- Seventeen digits tell any two fractions apart, so the search does not fail.
  ((List.range' 1 17).findSome? interval.atPlaces).getD ⟨0, 0⟩

/-- The place value of the sign among the bits of a number. -/
def signUnit : Nat := 0x8000000000000000

/-- The place value of the bit that stands before the fraction. -/
def leadingUnit : Nat := 0x10000000000000

/-- The interval of a positive finite number. -/
def Interval.ofFloat (value : Float) : Interval :=
  let bits := value.toBits.toNat % signUnit
  let fraction : Nat := bits % leadingUnit
  let power : Nat := bits / leadingUnit
  -- The least fractions have no bit before the point.
  if power = 0 then .ofBinary fraction (-1074) false
  else .ofBinary (leadingUnit + fraction) ((power : Int) - 1075) (fraction == 0 && 1 < power)

/-- The digits without trailing zeros; at least one stays. -/
def trimZeros (digits : List Char) : List Char :=
  match (digits.reverse.dropWhile (· = '0')).reverse with
  | [] => ['0']
  | kept => kept

/-- How a decimal is written. -/
structure Form where
  /-- The least power of ten of the first digit for which places are written out. -/
  least : Int
  /-- The greatest power of ten of the first digit for which places are written out. -/
  greatest : Int
  deriving Repr

/-- Writes an exponent with its sign and as few digits as it has. -/
def writeExponent (power : Int) : List Char :=
  'e' :: (if power < 0 then '-' else '+') :: Nat.toDigits 10 power.natAbs

/-- Writes a decimal: in places with at least one after the point, or with an exponent. -/
def write (form : Form) (decimal : Decimal) : List Char :=
  let all := Nat.toDigits 10 decimal.digits
  let digits := trimZeros all
  let power : Int := decimal.exponent + all.length - 1
  if form.least ≤ power ∧ power ≤ form.greatest then
    -- A fraction below one begins with a zero, and so do the places before its first digit.
    if power < 0 then
      "0.".toList ++ List.replicate ((-power).toNat - 1) '0' ++ digits
    else
      let whole := power.toNat + 1
      let padded := digits ++ List.replicate (whole + 1 - digits.length) '0'
      padded.take whole ++ '.' :: (padded.drop whole)
  else
    match digits with
    | first :: [] => first :: writeExponent power
    | first :: rest => first :: '.' :: (rest ++ writeExponent power)
    | [] => []

/-- Writes a finite number with the fewest digits that read back. -/
def ofFloat (form : Form) (value : Float) : String :=
  let sign := if value.toBits.toNat < signUnit then [] else ['-']
  let body := if value == 0 then "0.0".toList else write form (Interval.ofFloat value).shortest
  String.ofList (sign ++ body)

end Decimal

end ImageHeader
