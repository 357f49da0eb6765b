import ImageHeader.Decimal.Rounded

/-! Fractions as texts: how the shell reads them, and how it writes them in the ways that a format may ask for. -/

namespace ImageHeader.Shell

open Rounded (Binary)

/-- The magnitude of a number that is read from a text. -/
inductive Magnitude where
  | finite (binary : Binary)
  | infinite
  | undefined
  deriving DecidableEq, Repr

/-- A number that is read from a text. -/
structure Fraction where
  /-- Whether a minus sign stands in front. -/
  negative : Bool := false
  /-- Its magnitude. -/
  magnitude : Magnitude
  /-- Whether the text spells a number too large or too small to be kept. -/
  strays : Bool := false
  deriving Repr

/-- The value of a digit to a base, if it is one. -/
def fractionDigit? (base : Nat) (char : Char) : Option Nat :=
  let value :=
    if char.isDigit then char.toNat - '0'.toNat
    else if 'a' ≤ char.toLower ∧ char.toLower ≤ 'f' then char.toLower.toNat - 'a'.toNat + 10
    else base
  if value < base then some value else none

/-- The number that digits to a base spell. -/
def digitsValue (base : Nat) (digits : List Char) : Nat :=
  digits.foldl (fun total digit => total * base + (fractionDigit? base digit).getD 0) 0

/-- Reads an exponent behind its letter: its value and the rest, which is everything when no digit follows. -/
def readExponent (letter : Char) (chars : List Char) : Int × List Char :=
  match chars with
  | first :: rest =>
    if first.toLower ≠ letter then (0, chars)
    else
      let (negative, digits) :=
        match rest with
        | '-' :: digits => (true, digits)
        | '+' :: digits => (false, digits)
        | digits => (false, digits)
      let found := digits.takeWhile Char.isDigit
      -- A letter without digits is no exponent but what follows the number.
      if found = [] then (0, chars)
      else
        let value : Int := digitsValue 10 found
        (if negative then -value else value, digits.drop found.length)
  | [] => (0, [])

/-- The number that a quotient comes to, and whether it strays: it is too large, or a part of it is lost near zero. -/
def ofQuotient (numerator denominator : Nat) : Magnitude × Bool :=
  match Rounded.nearest? numerator denominator with
  | none => (.infinite, true)
  | some binary =>
    -- Near zero a fraction has fewer digits, so it may be near without being equal.
    let small := binary.mantissa < Nat.pow 2 (Rounded.precision - 1)
    let exact := binary.numerator * denominator = numerator * binary.denominator
    (.finite binary, small && !exact)

/-- The number with some digits, of which the last one counts a power of ten; exponents far out need not be worked
out. -/
def ofDecimal (digits : List Char) (exponent : Int) : Magnitude × Bool :=
  let significant := digits.dropWhile (· = '0')
  let size : Int := significant.length + exponent
  if significant = [] then (.finite ⟨0, Rounded.leastPower⟩, false)
  -- Far beyond what can be kept, so the powers are not even computed.
  else if size < -400 then (.finite ⟨0, Rounded.leastPower⟩, true)
  else if 400 < size then (.infinite, true)
  else
    ofQuotient (digitsValue 10 significant * Nat.pow 10 exponent.toNat) (Nat.pow 10 (-exponent).toNat)

/-- The number with some hexadecimal digits, of which the last one counts a power of two. -/
def ofHexadecimal (digits : List Char) (exponent : Int) : Magnitude × Bool :=
  let significant := digits.dropWhile (· = '0')
  let size : Int := significant.length * 4 + exponent
  if significant = [] then (.finite ⟨0, Rounded.leastPower⟩, false)
  else if size < -1200 then (.finite ⟨0, Rounded.leastPower⟩, true)
  else if 1200 < size then (.infinite, true)
  else
    ofQuotient (digitsValue 16 significant * Nat.pow 2 exponent.toNat) (Nat.pow 2 (-exponent).toNat)

/-- Reads digits to a base with at most one point among them: those before it, those after it, and the rest. -/
def readPlaces (base : Nat) (chars : List Char) : List Char × List Char × List Char :=
  let isDigit (char : Char) : Bool := (fractionDigit? base char).isSome
  let whole := chars.takeWhile isDigit
  match chars.drop whole.length with
  | '.' :: rest =>
    let places := rest.takeWhile isDigit
    if whole = [] && places = [] then ([], [], chars) else (whole, places, rest.drop places.length)
  | rest => (whole, [], rest)

/-- Whether a text begins with a word, in capitals or not. -/
def beginsWith (word : String) (chars : List Char) : Bool :=
  word.toList.isPrefixOf (chars.map Char.toLower)

/-- Reads a magnitude and what follows it; none when there is no number. -/
def readMagnitude? (chars : List Char) : Option (Magnitude × Bool × List Char) :=
  if beginsWith "infinity" chars then some (.infinite, false, chars.drop 8)
  else if beginsWith "inf" chars then some (.infinite, false, chars.drop 3)
  else if beginsWith "nan" chars then
    let rest := chars.drop 3
    let inner := (rest.drop 1).takeWhile fun char => char.isAlphanum || char = '_'
    let closed := rest.head? = some '(' && ((rest.drop 1).drop inner.length).head? = some ')'
    some (.undefined, false, if closed then rest.drop (inner.length + 2) else rest)
  else
    -- A mark of the base without a digit behind it leaves the zero before it.
    let (hexWhole, hexPlaces, hexRest) := readPlaces 16 (chars.drop 2)
    if beginsWith "0x" chars && hexWhole ++ hexPlaces ≠ [] then
      let (exponent, rest) := readExponent 'p' hexRest
      let (magnitude, strays) := ofHexadecimal (hexWhole ++ hexPlaces) (exponent - 4 * hexPlaces.length)
      some (magnitude, strays, rest)
    else
      let (whole, places, rest) := readPlaces 10 chars
      if whole ++ places = [] then none
      else
        let (exponent, rest) := readExponent 'e' rest
        let (magnitude, strays) := ofDecimal (whole ++ places) (exponent - places.length)
        some (magnitude, strays, rest)

/-- Reads a number at the beginning of a text, after blanks: the number and the rest. -/
def readFraction? (chars : List Char) : Option (Fraction × List Char) :=
  let isBlank (char : Char) : Bool := char = ' ' || ('\t' ≤ char && char ≤ '\r')
  let (negative, rest) :=
    match chars.dropWhile isBlank with
    | '-' :: rest => (true, rest)
    | '+' :: rest => (false, rest)
    | rest => (false, rest)
  (readMagnitude? rest).map fun (magnitude, strays, rest) => (⟨negative, magnitude, strays⟩, rest)

/-- Digits with a point between them, which only `marked` keeps when none follow. -/
def pointed (marked : Bool) (whole places : List Char) : List Char :=
  if places = [] && !marked then whole else whole ++ '.' :: places

/-- An exponent with its letter, its sign and at least some digits. -/
def exponentText (letter : Char) (least : Nat) (exponent : Int) : List Char :=
  let digits := Nat.toDigits 10 exponent.natAbs
  letter :: (if exponent < 0 then '-' else '+') :: List.replicate (least - digits.length) '0' ++ digits

/-- Places without the zeros at their end. -/
def withoutZeros (places : List Char) : List Char := (places.reverse.dropWhile (· = '0')).reverse

/-- A binary fraction with places after the point. -/
def fixedText (marked : Bool) (places : Nat) (binary : Binary) : List Char :=
  let (whole, places) := binary.fixed places
  pointed marked whole places

/-- A binary fraction with one digit before the point, and an exponent. -/
def scientificText (marked : Bool) (places : Nat) (binary : Binary) : List Char :=
  let (digits, power) := binary.scientific places
  pointed marked (digits.take 1) (digits.drop 1) ++ exponentText 'e' 2 power

/-- A binary fraction with some digits, in whichever way is shorter; zeros at the end go unless `marked` keeps them. -/
def generalText (marked : Bool) (digits : Nat) (binary : Binary) : List Char :=
  let digits := max digits 1
  let (found, power) := binary.scientific (digits - 1)
  let trim (places : List Char) : List Char := if marked then places else withoutZeros places
  if -4 ≤ power ∧ power < digits then
    let (whole, places) := binary.fixed (digits - 1 - power).toNat
    pointed marked whole (trim places)
  else pointed marked (found.take 1) (trim (found.drop 1)) ++ exponentText 'e' 2 power

/-- A binary fraction to the base sixteen, with all places that it has or with some. -/
def hexadecimalText (marked : Bool) (places : Option Nat) (binary : Binary) : List Char :=
  let unit := Nat.pow 2 (Rounded.precision - 1)
  -- A fraction that is not zero begins with a one, unless it is too small to do so.
  let first := if binary.mantissa < unit then 0 else 1
  let power := if binary.mantissa = 0 then 0 else binary.power + (Rounded.precision - 1)
  let (kept, value) :=
    match places with
    | some count =>
      if count < 13 then (count, Rounded.quotient binary.mantissa (Nat.pow 16 (13 - count)))
      else (count, binary.mantissa * Nat.pow 16 (count - 13))
    | none => (13, binary.mantissa)
  let digits := Nat.toDigits 16 (value % Nat.pow 16 kept)
  let digits := if kept = 0 then [] else List.replicate (kept - digits.length) '0' ++ digits
  let digits := if places.isNone then withoutZeros digits else digits
  let lead := if kept < 13 then value / Nat.pow 16 kept else first
  '0' :: 'x' :: pointed marked (Nat.toDigits 16 lead) digits ++ exponentText 'p' 1 power

/-- The text of a magnitude as a conversion asks for it. -/
def magnitudeText (conversion : Char) (marked : Bool) (places : Option Nat) : Magnitude → List Char
  | .infinite => "inf".toList
  | .undefined => "nan".toList
  | .finite binary =>
    match conversion with
    | 'e' => scientificText marked (places.getD 6) binary
    | 'f' => fixedText marked (places.getD 6) binary
    | 'g' => generalText marked (places.getD 6) binary
    | _ => hexadecimalText marked places binary

end ImageHeader.Shell
