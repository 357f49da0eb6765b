import ImageHeader.Proofs.Json.Reading

/-! JSON texts: what is written between quotes is quoted as it was, and so it is read back. -/

namespace ImageHeader

/-- A digit is read as its value. -/
theorem Hex.value?_digit : ∀ value < 16, value? (digit value) = some value := by
  decide

namespace Json

/-- The two digits of a byte behind two zeros are the byte. -/
theorem fourDigits_byte (byte : UInt8) (rest : List Char) :
    FourDigits byte.toNat ('0' :: '0' :: (Hex.byte byte ++ rest)) rest := by
  -- Both halves of a byte are below sixteen, so each is one digit.
  have bound := byte.toNat_lt
  refine ⟨'0', '0', Hex.digit (byte.toNat / 16), Hex.digit (byte.toNat % 16), 0, 0, byte.toNat / 16, byte.toNat % 16,
    rfl, rfl, rfl, Hex.value?_digit _ (by omega), Hex.value?_digit _ (by omega), ?_⟩
  omega

/-- What is written for a character is quoted as that character, before whatever is quoted behind it. -/
theorem Quotes.writeChar {char : Char} {text chars rest : List Char} (more : Quotes text chars rest) :
    Quotes (char :: text) (writeChar char ++ chars) rest := by
  unfold Json.writeChar
  split
  case h_8 quote backslash _ _ _ _ _ =>
    split
    · -- A control character is written by its number, which is far from any surrogate.
      rename_i control
      have number : (UInt8.ofNat char.toNat).toNat = char.toNat := by
        rw [UInt8.toNat_ofNat']
        omega
      have digits := fourDigits_byte (UInt8.ofNat char.toNat) chars
      rw [number] at digits
      have quoted := Quotes.unit digits (.inl (by omega)) more
      rwa [Char.ofNat_toNat] at quoted
    · -- Any other character stands for itself, as it is neither a quote nor a backslash.
      rename_i shown
      exact .plain ⟨quote, backslash, Nat.not_lt.mp shown⟩ more
  -- The other seven are written by a letter of the table.
  all_goals exact .letter (by decide) more

/-- What is written for some characters is quoted as these. -/
theorem Quotes.written (text rest : List Char) : Quotes text (text.flatMap Json.writeChar ++ '"' :: rest) rest := by
  -- Each character is written by itself, so the phrase grows from its end.
  induction text with
  | nil => exact .done rest
  | cons char more ih =>
    rw [List.flatMap_cons, List.append_assoc]
    exact ih.writeChar

/-- What is written for a text is read as that text. -/
theorem readText_written (text : String) (rest : List Char) :
    readText (text.toList.flatMap writeChar ++ '"' :: rest) = .ok (text, rest) := by
  rw [readText, (Quotes.written text.toList rest).readTextFrom_eq]
  simp

end Json

end ImageHeader
