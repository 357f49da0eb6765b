import ImageHeader.Json.Fault

/-! JSON numbers: reading one as an integer or a binary fraction, and passing over one. -/

namespace ImageHeader.Json

/-- A number that was read. -/
inductive Number where
  | whole (value : Int)
  | fraction (value : Float)

namespace Number

/-- The greatest significand that is gathered digit by digit. -/
def significandLimit : Nat := 0xFFFFFFFFFFFFFFFF

/-- The greatest exponent that is gathered digit by digit. -/
def exponentLimit : Nat := 0x7FFFFFFF

/-- A power of ten up to 308. -/
def power (exponent : Nat) : Float := Float.ofScientific 1 false exponent

/-- Scales a number by a power of ten in steps of at most 308. -/
def scale : Nat → Float → Int → Option Float
  | 0, value, _ => some value
  | fuel + 1, value, exponent =>
    -- The last step: ten to the power of 308 is the greatest power that is finite.
    if exponent.natAbs ≤ 308 then
      if 0 ≤ exponent then
        let scaled := value * power exponent.natAbs
        if scaled.isInf then none else some scaled
      else some (value / power exponent.natAbs)
    -- Zero stays zero however far it is scaled; anything else is too large upward and is divided downward.
    else if value == 0 then some value
    else if 0 ≤ exponent then none
    else scale fuel (value / power 308) (exponent + 308)

/-- The number with a sign, a significand and a power of ten; each step rounds. -/
def ofParts (positive : Bool) (significand : Nat) (exponent : Int) : Except Fault Number :=
  -- One step for each 308, and the last one.
  match scale (exponent.natAbs / 308 + 1) (Float.ofNat significand) exponent with
  | none => .error .numberTooLarge
  | some value => .ok (.fraction (if positive then value else -value))

/-- Zero with a sign. -/
def zero (positive : Bool) : Number := .fraction (if positive then 0.0 else -0.0)

/-- The value of a digit. -/
def digit (char : Char) : Nat := char.toNat - '0'.toNat

/-- Gathers digits into a number while it stays below a bound; the digits after that are left. -/
def gather (bound : Nat) : Nat → Nat → List Char → Nat × Nat × List Char
  | total, count, [] => (total, count, [])
  | total, count, char :: rest =>
    -- The bound is tested before the digit is taken, so the total never passes it.
    if char.isDigit && total * 10 + digit char ≤ bound then
      gather bound (total * 10 + digit char) (count + 1) rest
    else (total, count, char :: rest)

/-- Whether a character opens an exponent. -/
def opensExponent (char : Char) : Bool := char = 'e' || char = 'E'

/-- Reads an exponent after its letter, and ends the number. -/
def readExponent (positive : Bool) (significand : Nat) (start : Int) (chars : List Char) :
    Reading Number :=
  -- Without a sign the exponent is positive.
  let (upward, chars) :=
    match chars with
    | '+' :: rest => (true, rest)
    | '-' :: rest => (false, rest)
    | _ => (true, chars)
  match chars with
  | [] => .error .endInValue
  | first :: rest =>
    if !first.isDigit then .error .malformedNumber
    else
      let (exponent, _, rest) := gather exponentLimit (digit first) 1 rest
      if rest.head?.any Char.isDigit then
        -- An exponent beyond all bounds is zero or too large.
        if significand ≠ 0 ∧ upward then .error .numberTooLarge
        else .ok (zero positive, rest.dropWhile Char.isDigit)
      else
        let final := if upward then start + exponent else start - exponent
        (ofParts positive significand final).map fun number => (number, rest)

/-- Ends a number, or goes on to its exponent. -/
def finish (positive : Bool) (significand : Nat) (exponent : Int) (chars : List Char) :
    Reading Number :=
  match chars with
  | char :: rest =>
    -- Whatever else follows the digits is left for the caller to judge.
    if opensExponent char then readExponent positive significand exponent rest
    else (ofParts positive significand exponent).map fun number => (number, chars)
  | [] => (ofParts positive significand exponent).map fun number => (number, chars)

/-- Reads the digits after a point; those beyond the significand's bound change nothing. -/
def readDecimals (positive : Bool) (significand : Nat) (start : Int) (chars : List Char) :
    Reading Number :=
  let (total, count, rest) := gather significandLimit significand 0 chars
  let exponent := start - count
  -- Digits left over are those the significand had no room for.
  if rest.head?.any Char.isDigit then finish positive total exponent (rest.dropWhile Char.isDigit)
  -- A point wants a digit behind it.
  else if count = 0 then
    match rest with
    | [] => .error .endInValue
    | _ => .error .malformedNumber
  else finish positive total exponent rest

/-- Reads what follows the integral digits that fit the significand. -/
def readTail (positive : Bool) (significand : Nat) (chars : List Char) : Reading Number :=
  match chars with
  | '.' :: rest => readDecimals positive significand 0 rest
  | 'e' :: rest | 'E' :: rest => readExponent positive significand 0 rest
  | _ =>
    if positive then .ok (.whole significand, chars)
    else
      -- Negative numbers beyond 64 bits, and negative zero, are no integers.
      if significand = 0 ∨ 0x8000000000000000 < significand then
        .ok (.fraction (-(Float.ofNat significand)), chars)
      else .ok (.whole (-significand), chars)

/-- Reads a number after its sign. -/
def read (positive : Bool) (chars : List Char) : Reading Number :=
  match chars with
  | [] => .error .endInValue
  | '0' :: rest =>
    -- Zero is the only number that may begin with a zero.
    if rest.head?.any Char.isDigit then .error .malformedNumber else readTail positive 0 rest
  | first :: rest =>
    if !first.isDigit then .error .malformedNumber
    else
      let (significand, _, rest) := gather significandLimit (digit first) 1 rest
      if rest.head?.any Char.isDigit then
        -- Digits that did not fit still count as places: each is a power of ten.
        let skipped := rest.takeWhile Char.isDigit
        let rest := rest.dropWhile Char.isDigit
        match rest with
        | '.' :: after => readDecimals positive significand skipped.length after
        | _ => finish positive significand skipped.length rest
      else readTail positive significand rest

/-- Passes over a sign, if there is one. -/
def skipSign (chars : List Char) : List Char :=
  match chars with
  | '+' :: rest | '-' :: rest => rest
  | _ => chars

/-- Passes over digits, of which there must be one. -/
def skipDigits (chars : List Char) : Except Fault (List Char) :=
  if chars.head?.any Char.isDigit then .ok (chars.dropWhile Char.isDigit)
  else .error .malformedNumber

/-- Passes over an exponent after its letter. -/
def skipExponent (chars : List Char) : Except Fault (List Char) :=
  skipDigits (skipSign chars)

/-- Passes over what follows the integral digits of a number. -/
def skipTail (chars : List Char) : Except Fault (List Char) :=
  match chars with
  | '.' :: rest =>
    match skipDigits rest with
    | .error fault => .error fault
    | .ok ('e' :: after) | .ok ('E' :: after) => skipExponent after
    | .ok after => .ok after
  | 'e' :: rest | 'E' :: rest => skipExponent rest
  | _ => .ok chars

/-- Passes over a number after its sign, whatever its size. -/
def skip (chars : List Char) : Except Fault (List Char) :=
  match chars with
  -- The form is the same as that of a number that is read; only the bounds are missing.
  | '0' :: rest =>
    if rest.head?.any Char.isDigit then .error .malformedNumber else skipTail rest
  | first :: rest =>
    if first.isDigit then skipTail (rest.dropWhile Char.isDigit) else .error .malformedNumber
  | [] => .error .malformedNumber

/-- Digits are passed over from the front. -/
theorem skipDigits_shorter {chars rest : List Char} (skipped : skipDigits chars = .ok rest) :
    rest.length ≤ chars.length := by
  -- What is left is a suffix.
  unfold skipDigits at skipped
  split at skipped
  · simp only [Except.ok.injEq] at skipped
    rw [← skipped]
    exact (List.dropWhile_suffix Char.isDigit).length_le
  · cases skipped

/-- What an exponent leaves is no longer than what it was read from. -/
theorem skipExponent_shorter {chars rest : List Char} (skipped : skipExponent chars = .ok rest) :
    rest.length ≤ chars.length := by
  -- A sign is one character at most, and digits follow it.
  have digits := skipDigits_shorter skipped
  have sign : (skipSign chars).length ≤ chars.length := by
    unfold skipSign
    split <;> simp
  omega

/-- What follows the integral digits is passed over from the front. -/
theorem skipTail_shorter {chars rest : List Char} (skipped : skipTail chars = .ok rest) :
    rest.length ≤ chars.length := by
  -- A point with its digits is dropped, and then an exponent.
  unfold skipTail at skipped
  split at skipped
  · split at skipped
    · cases skipped
    · rename_i places
      have := skipDigits_shorter places
      have := skipExponent_shorter skipped
      grind
    · rename_i places
      have := skipDigits_shorter places
      have := skipExponent_shorter skipped
      grind
    · rename_i places
      have := skipDigits_shorter places
      grind
  · have := skipExponent_shorter skipped
    grind
  · have := skipExponent_shorter skipped
    grind
  · grind

/-- Passing over a number takes characters from the front. -/
theorem skip_shorter {chars rest : List Char} (skipped : skip chars = .ok rest) :
    rest.length < chars.length := by
  -- The first digit is always dropped.
  unfold skip at skipped
  have dropped := fun held : List Char => (List.dropWhile_suffix Char.isDigit (l := held)).length_le
  split at skipped
  · split at skipped
    · cases skipped
    · have := skipTail_shorter skipped
      grind
  · split at skipped
    · rename_i after _ _
      have := skipTail_shorter skipped
      have := dropped after
      grind
    · cases skipped
  · cases skipped

end Number

end ImageHeader.Json
