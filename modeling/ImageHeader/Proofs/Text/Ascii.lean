import ImageHeader.Header.Transcript

/-! ASCII: the bytes below 0x80 in an encoded text are its ASCII characters, one for one. -/

namespace ImageHeader.Utf8

variable {char : Char} {byte : UInt8} {text : String}

/-- The bytes of a text made of characters are those of the characters. -/
theorem encode_ofList (chars : List Char) :
    encode (String.ofList chars) = chars.flatMap String.utf8EncodeChar := by
  rw [encode, String.toList_ofList]

/-- The bytes of two texts stand one after the other. -/
@[simp]
theorem encode_append (first second : String) :
    encode (first ++ second) = encode first ++ encode second := by
  simp [encode]

/-- An ASCII character is one byte. -/
theorem utf8EncodeChar_ascii (ascii : char.toNat < 0x80) :
    String.utf8EncodeChar char = [UInt8.ofNat char.toNat] := by
  have small : char.val.toNat ≤ 0x7f := Nat.le_of_lt_succ ascii
  -- The form of one byte is taken up to 0x7F.
  rw [String.utf8EncodeChar]
  simp only [small, if_true]
  rfl

/-- A byte below 0x80 in the bytes of a character is that character. -/
theorem toNat_of_mem_utf8EncodeChar (ascii : byte.toNat < 0x80)
    (member : byte ∈ String.utf8EncodeChar char) : byte.toNat = char.toNat := by
  -- In a longer sequence every byte carries a mark of at least 0x80.
  have bound : char.val.toNat < 0x110000 := by
    have valid := char.valid
    simp only [UInt32.isValidChar, Nat.isValidChar] at valid
    omega
  unfold String.utf8EncodeChar at member
  simp only at member
  split at member
  · -- The form of one byte holds the number of the character.
    rename_i single
    rw [List.mem_singleton] at member
    subst member
    have whole : (UInt8.ofNat char.val.toNat).toNat = char.val.toNat := by
      rw [UInt8.toNat_ofNat']
      omega
    exact whole
  · -- The longer forms hold no byte that small.
    split at member
    · simp only [List.mem_cons, List.not_mem_nil, or_false] at member
      rcases member with rfl | rfl <;> simp only [UInt8.toNat_ofNat'] at ascii <;> omega
    · split at member
      · simp only [List.mem_cons, List.not_mem_nil, or_false] at member
        rcases member with rfl | rfl | rfl <;> simp only [UInt8.toNat_ofNat'] at ascii <;> omega
      · simp only [List.mem_cons, List.not_mem_nil, or_false] at member
        rcases member with rfl | rfl | rfl | rfl <;>
          simp only [UInt8.toNat_ofNat'] at ascii <;> omega

/-- The bytes of a character hold an ASCII character only if they are that character. -/
theorem ofNat_mem_utf8EncodeChar {ascii : Char} (small : ascii.toNat < 0x80) :
    UInt8.ofNat ascii.toNat ∈ String.utf8EncodeChar char ↔ char = ascii := by
  -- A number that small is not cut off in a byte.
  have whole : (UInt8.ofNat ascii.toNat).toNat = ascii.toNat := by
    rw [UInt8.toNat_ofNat']
    omega
  constructor
  · intro inside
    have same := toNat_of_mem_utf8EncodeChar (by rwa [whole]) inside
    exact Char.toNat_inj.mp (same.symm.trans whole)
  · rintro rfl
    rw [utf8EncodeChar_ascii small, List.mem_singleton]

/-- The bytes of a text hold an ASCII character exactly where the text does. -/
theorem ofNat_mem_encode {ascii : Char} (small : ascii.toNat < 0x80) :
    UInt8.ofNat ascii.toNat ∈ encode text ↔ ascii ∈ text.toList := by
  -- A byte of the text is a byte of one of its characters.
  rw [encode, List.mem_flatMap]
  simp only [ofNat_mem_utf8EncodeChar small, exists_eq_right]

/-- The bytes of a text end in an ASCII character exactly if the text does. -/
theorem getLast?_encode {ascii : Char} (small : ascii.toNat < 0x80) :
    (encode text).getLast? = some (UInt8.ofNat ascii.toNat) ↔ text.toList.getLast? = some ascii := by
  rw [encode]
  rcases text.toList.eq_nil_or_concat with none | ⟨before, last, whole⟩
  · simp [none]
  · -- What comes before the last character is out of sight.
    rw [whole, List.concat_eq_append, List.flatMap_append, List.getLast?_append, List.getLast?_concat,
      List.flatMap_singleton]
    cases ends : (String.utf8EncodeChar last).getLast? with
    | none => exact absurd (List.getLast?_eq_none_iff.mp ends) String.utf8EncodeChar_ne_nil
    | some final =>
      rw [Option.some_or, Option.some_inj, Option.some_inj]
      constructor
      · rintro rfl
        exact (ofNat_mem_utf8EncodeChar small).mp (List.mem_of_getLast? ends)
      · rintro rfl
        rw [utf8EncodeChar_ascii small, List.getLast?_singleton] at ends
        exact (Option.some.inj ends).symm

/-- The bytes of a text hold a line end exactly where the text does. -/
theorem lineEnd_mem_encode : lineEnd ∈ encode text ↔ '\n' ∈ text.toList :=
  @ofNat_mem_encode text '\n' (by decide)

end ImageHeader.Utf8
