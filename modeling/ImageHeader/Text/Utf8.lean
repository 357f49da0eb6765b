/-! UTF-8 text: encoding, strict decoding, and decoding that marks each malformed sequence. -/

namespace ImageHeader.Utf8

/-- The bytes of a text. -/
def encode (text : String) : List UInt8 :=
  text.toList.flatMap String.utf8EncodeChar

/-- A sequence that has begun and still waits for continuation bytes. -/
structure Pending where
  /-- The scalar value read so far. -/
  value : Nat
  /-- The continuation bytes due after the next one. -/
  later : Nat
  /-- The least byte that may come next. -/
  low : UInt8
  /-- The greatest byte that may come next. -/
  high : UInt8
  deriving DecidableEq, Repr

/-- What a byte means where no sequence has begun. -/
inductive Lead where
  | single (char : Char)
  | opening (pending : Pending)
  | malformed
  deriving DecidableEq, Repr

/-- Reads a byte that opens a sequence; overlong forms, surrogates and values above U+10FFFF are cut off here. -/
def lead (byte : UInt8) : Lead :=
  -- The second byte's range excludes what the lead byte alone cannot.
  let bits := byte.toNat
  if bits < 0x80 then .single (Char.ofNat bits)
  else if bits < 0xC2 then .malformed
  else if bits < 0xE0 then .opening ⟨bits - 0xC0, 0, 0x80, 0xBF⟩
  else if bits = 0xE0 then .opening ⟨0, 1, 0xA0, 0xBF⟩
  else if bits = 0xED then .opening ⟨0xD, 1, 0x80, 0x9F⟩
  else if bits < 0xF0 then .opening ⟨bits - 0xE0, 1, 0x80, 0xBF⟩
  else if bits = 0xF0 then .opening ⟨0, 2, 0x90, 0xBF⟩
  else if bits < 0xF4 then .opening ⟨bits - 0xF0, 2, 0x80, 0xBF⟩
  else if bits = 0xF4 then .opening ⟨4, 2, 0x80, 0x8F⟩
  else .malformed

/-- The state of a decoder: the unfinished sequence, and the pieces found, last first. -/
structure Decoder where
  /-- The unfinished sequence, if any. -/
  pending : Option Pending
  /-- The pieces so far, last first; `none` stands for a maximal malformed sequence. -/
  found : List (Option Char)
  deriving DecidableEq, Repr

namespace Decoder

/-- The decoder before the first byte. -/
def start : Decoder := ⟨none, []⟩

/-- Takes a byte where no sequence has begun. -/
def begin (found : List (Option Char)) (byte : UInt8) : Decoder :=
  match lead byte with
  | .single char => ⟨none, some char :: found⟩
  | .opening pending => ⟨some pending, found⟩
  | .malformed => ⟨none, none :: found⟩

/-- Takes one byte: it continues the unfinished sequence, or ends it as malformed and begins anew. -/
def step (decoder : Decoder) (byte : UInt8) : Decoder :=
  match decoder.pending with
  | none => begin decoder.found byte
  | some pending =>
    if pending.low ≤ byte ∧ byte ≤ pending.high then
      let value := pending.value * 64 + (byte.toNat - 0x80)
      match pending.later with
      | 0 => ⟨none, some (Char.ofNat value) :: decoder.found⟩
      | later + 1 => ⟨some ⟨value, later, 0x80, 0xBF⟩, decoder.found⟩
    -- The byte that does not fit may itself begin a sequence, so it is not lost with the one before.
    else begin (none :: decoder.found) byte

/-- The pieces in order; an unfinished sequence counts as malformed. -/
def finish (decoder : Decoder) : List (Option Char) :=
  match decoder.pending with
  | none => decoder.found.reverse
  | some _ => (none :: decoder.found).reverse

end Decoder

/-- The characters and maximal malformed sequences of a byte string, in order. -/
def pieces (bytes : List UInt8) : List (Option Char) :=
  (bytes.foldl Decoder.step Decoder.start).finish

/-- The text of a well-formed byte string. -/
def decode? (bytes : List UInt8) : Option String :=
  let found := pieces bytes
  -- One malformed sequence is enough to make it no text.
  if found.all Option.isSome then some (String.ofList (found.filterMap id)) else none

/-- The text of any byte string, with U+FFFD for each maximal malformed sequence. -/
def decodeLossy (bytes : List UInt8) : String :=
  String.ofList ((pieces bytes).map fun piece => piece.getD '\uFFFD')

end ImageHeader.Utf8
