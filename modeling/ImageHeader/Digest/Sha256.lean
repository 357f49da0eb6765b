import ImageHeader.Text.Hex

/-! SHA-256: padding, the message schedule, compression and the digest of a byte string. -/

namespace ImageHeader.Sha256

/-- The constants of the rounds: the first bits of the fractional parts of the cube roots of the first primes. -/
def roundConstants : Array UInt32 := #[
  0x428a2f98, 0x71374491, 0xb5c0fbcf, 0xe9b5dba5, 0x3956c25b, 0x59f111f1, 0x923f82a4, 0xab1c5ed5,
  0xd807aa98, 0x12835b01, 0x243185be, 0x550c7dc3, 0x72be5d74, 0x80deb1fe, 0x9bdc06a7, 0xc19bf174,
  0xe49b69c1, 0xefbe4786, 0x0fc19dc6, 0x240ca1cc, 0x2de92c6f, 0x4a7484aa, 0x5cb0a9dc, 0x76f988da,
  0x983e5152, 0xa831c66d, 0xb00327c8, 0xbf597fc7, 0xc6e00bf3, 0xd5a79147, 0x06ca6351, 0x14292967,
  0x27b70a85, 0x2e1b2138, 0x4d2c6dfc, 0x53380d13, 0x650a7354, 0x766a0abb, 0x81c2c92e, 0x92722c85,
  0xa2bfe8a1, 0xa81a664b, 0xc24b8b70, 0xc76c51a3, 0xd192e819, 0xd6990624, 0xf40e3585, 0x106aa070,
  0x19a4c116, 0x1e376c08, 0x2748774c, 0x34b0bcb5, 0x391c0cb3, 0x4ed8aa4a, 0x5b9cca4f, 0x682e6ff3,
  0x748f82ee, 0x78a5636f, 0x84c87814, 0x8cc70208, 0x90befffa, 0xa4506ceb, 0xbef9a3f7, 0xc67178f2]

/-- The eight words that are carried from block to block. -/
structure State where
  /-- The first word. -/
  a : UInt32
  /-- The second word. -/
  b : UInt32
  /-- The third word. -/
  c : UInt32
  /-- The fourth word. -/
  d : UInt32
  /-- The fifth word. -/
  e : UInt32
  /-- The sixth word. -/
  f : UInt32
  /-- The seventh word. -/
  g : UInt32
  /-- The eighth word. -/
  h : UInt32
  deriving DecidableEq, Repr

/-- The state before the first block: the first bits of the fractional parts of square roots of primes. -/
def State.start : State :=
  ⟨0x6a09e667, 0xbb67ae85, 0x3c6ef372, 0xa54ff53a,
    0x510e527f, 0x9b05688c, 0x1f83d9ab, 0x5be0cd19⟩

/-- A word turned to the right. -/
def rotate (word : UInt32) (count : UInt32) : UInt32 :=
  (word >>> count) ||| (word <<< (32 - count))

/-- The small mixing of the word fifteen places back. -/
def smallSigma0 (word : UInt32) : UInt32 := rotate word 7 ^^^ rotate word 18 ^^^ (word >>> 3)

/-- The small mixing of the word two places back. -/
def smallSigma1 (word : UInt32) : UInt32 := rotate word 17 ^^^ rotate word 19 ^^^ (word >>> 10)

/-- The large mixing of the first word of a state. -/
def bigSigma0 (word : UInt32) : UInt32 := rotate word 2 ^^^ rotate word 13 ^^^ rotate word 22

/-- The large mixing of the fifth word of a state. -/
def bigSigma1 (word : UInt32) : UInt32 := rotate word 6 ^^^ rotate word 11 ^^^ rotate word 25

/-- Each bit of the first word chooses between the bits of the others. -/
def choice (x y z : UInt32) : UInt32 := (x &&& y) ^^^ (~~~x &&& z)

/-- Each bit is the one that two of the words agree on. -/
def majority (x y z : UInt32) : UInt32 := (x &&& y) ^^^ (x &&& z) ^^^ (y &&& z)

/-- The word at a place of a schedule that is being made. -/
def wordAt (words : Array UInt32) (index : Nat) : UInt32 := words.getD index 0

/-- Adds the next word to a schedule. -/
def extend (words : Array UInt32) (_ : Nat) : Array UInt32 :=
  let size := words.size
  -- Four words of the schedule so far make the next one.
  words.push (wordAt words (size - 16) + smallSigma0 (wordAt words (size - 15)) +
    wordAt words (size - 7) + smallSigma1 (wordAt words (size - 2)))

/-- The sixty-four words of a block's schedule. -/
def schedule (block : Array UInt32) : Array UInt32 :=
  (List.range 48).foldl extend block

/-- One round with a word of the schedule and a constant. -/
def round (state : State) (pair : UInt32 × UInt32) : State :=
  let first := state.h + bigSigma1 state.e + choice state.e state.f state.g + pair.1 + pair.2
  let second := bigSigma0 state.a + majority state.a state.b state.c
  ⟨first + second, state.a, state.b, state.c, state.d + first, state.e, state.f, state.g⟩

/-- The state after one block of sixteen words. -/
def compress (state : State) (block : Array UInt32) : State :=
  let mixed := ((schedule block).zip roundConstants).foldl round state
  -- Adding the old state keeps the step from being undone.
  ⟨state.a + mixed.a, state.b + mixed.b, state.c + mixed.c, state.d + mixed.d,
    state.e + mixed.e, state.f + mixed.f, state.g + mixed.g, state.h + mixed.h⟩

/-- The bytes of a number, most significant first. -/
def bigEndian (count value : Nat) : List UInt8 :=
  (List.range count).map fun index => UInt8.ofNat (value >>> (8 * (count - 1 - index)) % 256)

/-- What follows a message of some length: a one bit, zeros, and the length in bits. -/
def padding (length : Nat) : List UInt8 :=
  -- The zeros are as many as bring the length to a whole number of blocks of sixty-four bytes.
  0x80 :: List.replicate ((119 - length % 64) % 64) 0 ++ bigEndian 8 (length * 8)

/-- A digest in the making: the state, the words of the open block and the bytes of the open word. -/
structure Progress where
  /-- The state after the full blocks. -/
  state : State
  /-- The words of the open block. -/
  words : Array UInt32
  /-- The bytes of the open word so far, as a number. -/
  value : UInt32
  /-- How many bytes these are. -/
  count : Nat

/-- Takes one byte. -/
def Progress.step (progress : Progress) (byte : UInt8) : Progress :=
  -- Four bytes make a word and sixteen words a block; only whole blocks change the state.
  let value := progress.value <<< 8 ||| byte.toUInt32
  if progress.count < 3 then { progress with value := value, count := progress.count + 1 }
  else
    let words := progress.words.push value
    if words.size < 16 then ⟨progress.state, words, 0, 0⟩
    else ⟨compress progress.state words, #[], 0, 0⟩

/-- The state after a padded message. -/
def absorb (bytes : List UInt8) : State :=
  (bytes.foldl Progress.step ⟨.start, #[], 0, 0⟩).state

/-- The bytes of a state. -/
def State.toBytes (state : State) : List UInt8 :=
  [state.a, state.b, state.c, state.d, state.e, state.f, state.g, state.h].flatMap fun word =>
    bigEndian 4 word.toNat

/-- The digest of a byte string. -/
def digest (message : List UInt8) : List UInt8 :=
  (absorb (message ++ padding message.length)).toBytes

/-- The digest in hexadecimal digits. -/
def hexDigest (message : List UInt8) : String := Hex.bytes (digest message)

end ImageHeader.Sha256
