/-! Hexadecimal text of bytes and numbers, in lower case. -/

namespace ImageHeader.Hex

/-- The digit for a value below sixteen. -/
def digit (value : Nat) : Char :=
  -- Ten is the letter a in lower case.
  if value < 10 then Char.ofNat (0x30 + value) else Char.ofNat (0x57 + value)

/-- The two digits of a byte. -/
def byte (byte : UInt8) : List Char :=
  [digit (byte.toNat / 16), digit (byte.toNat % 16)]

/-- The digits of a byte string, two for each byte. -/
def bytes (bytes : List UInt8) : String :=
  String.ofList (bytes.flatMap byte)

/-- The digits of a number, without leading zeros. -/
def number (value : Nat) : String :=
  String.ofList (Nat.toDigits 16 value)

/-- The value of a digit in either case. -/
def value? (char : Char) : Option Nat :=
  let code := char.toNat
  if 0x30 ≤ code ∧ code ≤ 0x39 then some (code - 0x30)
  else if 0x61 ≤ code ∧ code ≤ 0x66 then some (code - 0x57)
  else if 0x41 ≤ code ∧ code ≤ 0x46 then some (code - 0x37)
  else none

end ImageHeader.Hex
