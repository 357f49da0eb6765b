import ImageHeader.Proofs.Text.Ascii

/-!
UTF-8: what a byte string is cut into, said piece by piece.

The main statements are that a text is read back from its bytes, that well-formed bytes are those of their text, and
that texts are ordered as their bytes are.
-/

namespace ImageHeader.Utf8

variable {char other : Char} {byte : UInt8} {pending : Pending} {bytes rest : List UInt8}

/-- The pieces of some bytes after a sequence that was begun, if one was. -/
def piecesAfter (pending : Option Pending) (bytes : List UInt8) : List (Option Char) :=
  (bytes.foldl Decoder.step ⟨pending, []⟩).finish

/-- The sequence that is unfinished after a byte that was due. -/
def Pending.next (pending : Pending) (byte : UInt8) (later : Nat) : Pending :=
  ⟨pending.value * 64 + (byte.toNat - 0x80), later, 0x80, 0xBF⟩

/-- What was found before stays in front. -/
theorem finish_foldl_step (bytes : List UInt8) (pending : Option Pending) (found : List (Option Char)) :
    (bytes.foldl Decoder.step ⟨pending, found⟩).finish = found.reverse ++ piecesAfter pending bytes := by
  -- The induction is on the bytes; one step adds to what was found and does not look at it.
  induction bytes generalizing pending found with
  | nil => cases pending <;> simp [piecesAfter, Decoder.finish]
  | cons byte rest ih =>
    have begun (found : List (Option Char)) :
        (rest.foldl Decoder.step (Decoder.begin found byte)).finish =
          found.reverse ++ (rest.foldl Decoder.step (Decoder.begin [] byte)).finish := by
      unfold Decoder.begin
      cases lead byte <;> simp [ih]
    rw [piecesAfter, List.foldl_cons, List.foldl_cons, Decoder.step, Decoder.step]
    cases pending with
    | none => exact begun found
    | some pending =>
      dsimp only
      split
      · cases pending.later <;> simp [ih]
      · rw [begun, begun [none], List.reverse_cons, List.append_assoc]
        rfl

/-- A byte where no sequence has begun is a piece, or begins a sequence. -/
theorem piecesAfter_none (byte : UInt8) (rest : List UInt8) :
    piecesAfter none (byte :: rest) =
      match lead byte with
      | .single char => some char :: piecesAfter none rest
      | .opening pending => piecesAfter (some pending) rest
      | .malformed => none :: piecesAfter none rest := by
  rw [piecesAfter, List.foldl_cons, Decoder.step]
  dsimp only
  -- Each kind of byte leaves what was found before alone.
  unfold Decoder.begin
  cases lead byte <;> simp [finish_foldl_step]

/-- The last byte that was due makes a character. -/
theorem piecesAfter_last (due : pending.low ≤ byte ∧ byte ≤ pending.high) (last : pending.later = 0) :
    piecesAfter (some pending) (byte :: rest) =
      some (Char.ofNat (pending.value * 64 + (byte.toNat - 0x80))) :: piecesAfter none rest := by
  rw [piecesAfter, List.foldl_cons, Decoder.step]
  simp only [if_pos due, last, finish_foldl_step, List.reverse_singleton, List.singleton_append]

/-- A byte that was due goes on with the sequence. -/
theorem piecesAfter_next {later : Nat} (due : pending.low ≤ byte ∧ byte ≤ pending.high)
    (more : pending.later = later + 1) :
    piecesAfter (some pending) (byte :: rest) = piecesAfter (some (pending.next byte later)) rest := by
  rw [piecesAfter, List.foldl_cons, Decoder.step]
  simp only [if_pos due, more, finish_foldl_step, List.reverse_nil, List.nil_append]
  rfl

/-- Any other byte makes the sequence malformed. -/
theorem piecesAfter_undue (undue : ¬(pending.low ≤ byte ∧ byte ≤ pending.high)) :
    piecesAfter (some pending) (byte :: rest) = none :: piecesAfter none (byte :: rest) := by
  rw [piecesAfter, List.foldl_cons, Decoder.step]
  simp only [if_neg undue]
  -- The byte itself is looked at again, as one where nothing has begun.
  rw [piecesAfter_none]
  unfold Decoder.begin
  cases lead byte <;> simp [finish_foldl_step]

/-- An unfinished sequence is malformed. -/
theorem piecesAfter_unfinished (pending : Pending) : piecesAfter (some pending) [] = [none] := rfl

/-- A sequence that has begun comes to a piece in any case. -/
theorem piecesAfter_some_ne_nil (pending : Pending) (bytes : List UInt8) : piecesAfter (some pending) bytes ≠ [] := by
  -- The induction is on the bytes; a sequence ends, goes on or breaks off, and only going on gives no piece yet.
  induction bytes generalizing pending with
  | nil => simp [piecesAfter_unfinished]
  | cons byte rest ih =>
    by_cases due : pending.low ≤ byte ∧ byte ≤ pending.high
    · cases left : pending.later with
      | zero => simp [piecesAfter_last due left]
      | succ later =>
        rw [piecesAfter_next due left]
        exact ih _
    · simp [piecesAfter_undue due]

/-- At least one byte comes to at least one piece. -/
theorem pieces_ne_nil (byte : UInt8) (rest : List UInt8) : pieces (byte :: rest) ≠ [] := by
  -- At the start no sequence has begun.
  have first : pieces (byte :: rest) = piecesAfter none (byte :: rest) := rfl
  rw [first, piecesAfter_none]
  cases lead byte with
  | single char => simp
  | opening pending => exact piecesAfter_some_ne_nil pending rest
  | malformed => simp

/-- The bytes of a sequence that has begun, and what may still come to make a character of it. -/
inductive Spelled : List UInt8 → Pending → Prop
  /-- The first of two bytes. -/
  | two (first : UInt8) (value : Nat) (mark : first.toNat = 0xC0 + value) (least : 2 ≤ value)
      (most : value < 0x20) : Spelled [first] ⟨value, 0, 0x80, 0xBF⟩
  /-- The first of three bytes. -/
  | three (first : UInt8) (value : Nat) (low high : UInt8) (mark : first.toNat = 0xE0 + value)
      (most : value < 0x10) (least : low.toNat = if value = 0 then 0xA0 else 0x80)
      (greatest : high.toNat = if value = 0xD then 0x9F else 0xBF) : Spelled [first] ⟨value, 1, low, high⟩
  /-- The first of four bytes. -/
  | four (first : UInt8) (value : Nat) (low high : UInt8) (mark : first.toNat = 0xF0 + value)
      (most : value ≤ 4) (least : low.toNat = if value = 0 then 0x90 else 0x80)
      (greatest : high.toNat = if value = 4 then 0x8F else 0xBF) : Spelled [first] ⟨value, 2, low, high⟩
  /-- Two of three bytes. -/
  | twoOfThree (first second : UInt8) (value : Nat) (mark : first.toNat = 0xE0 + value / 64)
      (mark' : second.toNat = 0x80 + value % 64) (least : 0x20 ≤ value) (most : value < 0x400)
      (whole : value < 0x360 ∨ 0x380 ≤ value) : Spelled [first, second] ⟨value, 0, 0x80, 0xBF⟩
  /-- Two of four bytes. -/
  | twoOfFour (first second : UInt8) (value : Nat) (mark : first.toNat = 0xF0 + value / 64)
      (mark' : second.toNat = 0x80 + value % 64) (least : 0x10 ≤ value) (most : value < 0x110) :
      Spelled [first, second] ⟨value, 1, 0x80, 0xBF⟩
  /-- Three of four bytes. -/
  | threeOfFour (first second third : UInt8) (value : Nat) (mark : first.toNat = 0xF0 + value / 4096)
      (mark' : second.toNat = 0x80 + value / 64 % 64) (mark'' : third.toNat = 0x80 + value % 64)
      (least : 0x400 ≤ value) (most : value < 0x4400) :
      Spelled [first, second, third] ⟨value, 0, 0x80, 0xBF⟩

/-- A byte that begins a sequence is spelled in it. -/
theorem spelled_of_lead (opening : lead byte = .opening pending) : Spelled [byte] pending := by
  have bound : byte.toNat < 256 := byte.toNat_lt_size
  unfold lead at opening
  dsimp only at opening
  -- The ranges of lead bytes are asked for in ascending order.
  split at opening
  · cases opening
  split at opening
  · cases opening
  split at opening
  · rw [← Lead.opening.inj opening]
    exact .two byte _ (by omega) (by omega) (by omega)
  split at opening
  · rw [← Lead.opening.inj opening]
    exact .three byte _ _ _ (by omega) (by omega) rfl rfl
  split at opening
  · rw [← Lead.opening.inj opening]
    exact .three byte _ _ _ (by omega) (by omega) rfl rfl
  split at opening
  · rw [← Lead.opening.inj opening]
    exact .three byte _ _ _ (by omega) (by omega) (by rw [if_neg (by omega)]; rfl) (by rw [if_neg (by omega)]; rfl)
  split at opening
  · rw [← Lead.opening.inj opening]
    exact .four byte _ _ _ (by omega) (by omega) rfl rfl
  split at opening
  · rw [← Lead.opening.inj opening]
    exact .four byte _ _ _ (by omega) (by omega) (by rw [if_neg (by omega)]; rfl) (by rw [if_neg (by omega)]; rfl)
  split at opening
  · rw [← Lead.opening.inj opening]
    exact .four byte _ _ _ (by omega) (by omega) rfl rfl
  · cases opening

/-- A byte that was due is spelled behind those before it. -/
theorem Spelled.next {later : Nat} (spelled : Spelled bytes pending)
    (due : pending.low ≤ byte ∧ byte ≤ pending.high) (more : pending.later = later + 1) :
    Spelled (bytes ++ [byte]) (pending.next byte later) := by
  obtain ⟨above, below⟩ := due
  rw [UInt8.le_iff_toNat_le] at above below
  cases spelled with
  | two | twoOfThree | threeOfFour => cases more
  | three first value low high mark small least greatest =>
    obtain rfl : later = 0 := by simpa using more
    -- The bounds on the second byte leave out overlong forms and surrogates.
    dsimp only at above below
    rw [least] at above
    rw [greatest] at below
    unfold Pending.next
    refine .twoOfThree first byte _ ?_ ?_ ?_ ?_ ?_ <;> dsimp only <;> split at above <;> split at below <;> omega
  | four first value low high mark small least greatest =>
    obtain rfl : later = 1 := by simpa using more
    dsimp only at above below
    rw [least] at above
    rw [greatest] at below
    unfold Pending.next
    refine .twoOfFour first byte _ ?_ ?_ ?_ ?_ <;> dsimp only <;> split at above <;> split at below <;> omega
  | twoOfFour first second value mark mark' least most =>
    obtain rfl : later = 0 := by simpa using more
    replace above : 0x80 ≤ byte.toNat := above
    replace below : byte.toNat ≤ 0xBF := below
    unfold Pending.next
    refine .threeOfFour first second byte _ ?_ ?_ ?_ ?_ ?_ <;> dsimp only <;> omega

section Forms

variable {first second third fourth : UInt8}

/-- A character has a number below 0x110000 that is no surrogate. -/
theorem toNat_valid (char : Char) : char.toNat < 0xD800 ∨ 0xDFFF < char.toNat ∧ char.toNat < 0x110000 :=
  char.valid

/-- Such a number is that of a character. -/
theorem toNat_ofNat {value : Nat} (valid : value < 0xD800 ∨ 0xDFFF < value ∧ value < 0x110000) :
    (Char.ofNat value).toNat = value := by
  unfold Char.ofNat
  rw [dif_pos valid]
  rfl

/-- The bytes of a character that takes two. -/
theorem utf8EncodeChar_two (least : 0x80 ≤ char.toNat) (most : char.toNat < 0x800)
    (lead : first.toNat = 0xC0 + char.toNat / 64) (last : second.toNat = 0x80 + char.toNat % 64) :
    String.utf8EncodeChar char = [first, second] := by
  -- The marks and the six bits of each byte are compared as numbers.
  rw [String.utf8EncodeChar]
  simp only [Char.toNat_val]
  rw [if_neg (by omega), if_pos (by omega)]
  simp only [List.cons.injEq, ← UInt8.toNat_inj, UInt8.toNat_ofNat', and_true]
  omega

/-- The bytes of a character that takes three. -/
theorem utf8EncodeChar_three (least : 0x800 ≤ char.toNat) (most : char.toNat < 0x10000)
    (lead : first.toNat = 0xE0 + char.toNat / 4096) (inner : second.toNat = 0x80 + char.toNat / 64 % 64)
    (last : third.toNat = 0x80 + char.toNat % 64) :
    String.utf8EncodeChar char = [first, second, third] := by
  rw [String.utf8EncodeChar]
  simp only [Char.toNat_val]
  rw [if_neg (by omega), if_neg (by omega), if_pos (by omega)]
  simp only [List.cons.injEq, ← UInt8.toNat_inj, UInt8.toNat_ofNat', and_true]
  omega

/-- The bytes of a character that takes four. -/
theorem utf8EncodeChar_four (least : 0x10000 ≤ char.toNat)
    (lead : first.toNat = 0xF0 + char.toNat / 262144) (inner : second.toNat = 0x80 + char.toNat / 4096 % 64)
    (inner' : third.toNat = 0x80 + char.toNat / 64 % 64) (last : fourth.toNat = 0x80 + char.toNat % 64) :
    String.utf8EncodeChar char = [first, second, third, fourth] := by
  -- The mark of the first byte leaves room for the bits of the last character.
  have valid := toNat_valid char
  rw [String.utf8EncodeChar]
  simp only [Char.toNat_val]
  rw [if_neg (by omega), if_neg (by omega), if_neg (by omega)]
  simp only [List.cons.injEq, ← UInt8.toNat_inj, UInt8.toNat_ofNat', and_true]
  omega

end Forms

/-- The bytes of a character, of which there are one to four by its number. -/
inductive Form (char : Char) : List UInt8 → Prop
  | one (first : UInt8) (most : char.toNat < 0x80) (lead : first.toNat = char.toNat) : Form char [first]
  | two (first second : UInt8) (least : 0x80 ≤ char.toNat) (most : char.toNat < 0x800)
      (lead : first.toNat = 0xC0 + char.toNat / 64) (last : second.toNat = 0x80 + char.toNat % 64) :
      Form char [first, second]
  | three (first second third : UInt8) (least : 0x800 ≤ char.toNat) (most : char.toNat < 0x10000)
      (lead : first.toNat = 0xE0 + char.toNat / 4096) (inner : second.toNat = 0x80 + char.toNat / 64 % 64)
      (last : third.toNat = 0x80 + char.toNat % 64) : Form char [first, second, third]
  | four (first second third fourth : UInt8) (least : 0x10000 ≤ char.toNat)
      (lead : first.toNat = 0xF0 + char.toNat / 262144) (inner : second.toNat = 0x80 + char.toNat / 4096 % 64)
      (inner' : third.toNat = 0x80 + char.toNat / 64 % 64) (last : fourth.toNat = 0x80 + char.toNat % 64) :
      Form char [first, second, third, fourth]

/-- There is a byte for every number below 256. -/
theorem exists_byte {value : Nat} (small : value < 256) : ∃ byte : UInt8, byte.toNat = value :=
  ⟨.ofNat value, by rw [UInt8.toNat_ofNat']; omega⟩

/-- Every character has its bytes in one of the four forms. -/
theorem form_utf8EncodeChar (char : Char) : Form char (String.utf8EncodeChar char) := by
  have valid := toNat_valid char
  -- The number of the character decides how many bytes there are.
  by_cases one : char.toNat < 0x80
  · rw [utf8EncodeChar_ascii one]
    exact .one _ one (by rw [UInt8.toNat_ofNat']; omega)
  by_cases two : char.toNat < 0x800
  · obtain ⟨_, lead⟩ := @exists_byte (0xC0 + char.toNat / 64) (by omega)
    obtain ⟨_, last⟩ := @exists_byte (0x80 + char.toNat % 64) (by omega)
    rw [utf8EncodeChar_two (by omega) two lead last]
    exact .two _ _ (by omega) two lead last
  by_cases three : char.toNat < 0x10000
  · obtain ⟨_, lead⟩ := @exists_byte (0xE0 + char.toNat / 4096) (by omega)
    obtain ⟨_, inner⟩ := @exists_byte (0x80 + char.toNat / 64 % 64) (by omega)
    obtain ⟨_, last⟩ := @exists_byte (0x80 + char.toNat % 64) (by omega)
    rw [utf8EncodeChar_three (by omega) three lead inner last]
    exact .three _ _ _ (by omega) three lead inner last
  · obtain ⟨_, lead⟩ := @exists_byte (0xF0 + char.toNat / 262144) (by omega)
    obtain ⟨_, inner⟩ := @exists_byte (0x80 + char.toNat / 4096 % 64) (by omega)
    obtain ⟨_, inner'⟩ := @exists_byte (0x80 + char.toNat / 64 % 64) (by omega)
    obtain ⟨_, last⟩ := @exists_byte (0x80 + char.toNat % 64) (by omega)
    rw [utf8EncodeChar_four (by omega) lead inner inner' last]
    exact .four _ _ _ _ (by omega) lead inner inner' last

/-- The last byte that was due makes the character whose bytes are those that were spelled, and it. -/
theorem Spelled.last (spelled : Spelled bytes pending) (due : pending.low ≤ byte ∧ byte ≤ pending.high)
    (done : pending.later = 0) :
    String.utf8EncodeChar (Char.ofNat (pending.value * 64 + (byte.toNat - 0x80))) = bytes ++ [byte] := by
  obtain ⟨above, below⟩ := due
  rw [UInt8.le_iff_toNat_le] at above below
  -- Neither a surrogate nor an overlong form is spelled.
  cases spelled with
  | three | four | twoOfFour => cases done
  | two first value mark least most =>
    replace above : 0x80 ≤ byte.toNat := above
    replace below : byte.toNat ≤ 0xBF := below
    dsimp only
    refine utf8EncodeChar_two ?_ ?_ ?_ ?_ <;> rw [toNat_ofNat (by omega)] <;> omega
  | twoOfThree first second value mark mark' least most whole =>
    replace above : 0x80 ≤ byte.toNat := above
    replace below : byte.toNat ≤ 0xBF := below
    dsimp only
    refine utf8EncodeChar_three ?_ ?_ ?_ ?_ ?_ <;> rw [toNat_ofNat (by omega)] <;> omega
  | threeOfFour first second third value mark mark' mark'' least most =>
    replace above : 0x80 ≤ byte.toNat := above
    replace below : byte.toNat ≤ 0xBF := below
    dsimp only
    refine utf8EncodeChar_four ?_ ?_ ?_ ?_ ?_ <;> rw [toNat_ofNat (by omega)] <;> omega

/-- A byte that is a character is the one byte of it. -/
theorem utf8EncodeChar_of_lead (single : lead byte = .single char) : String.utf8EncodeChar char = [byte] := by
  unfold lead at single
  dsimp only at single
  split at single
  · rw [← Lead.single.inj single]
    have number : (Char.ofNat byte.toNat).toNat = byte.toNat := toNat_ofNat (by omega)
    rw [utf8EncodeChar_ascii (by omega), number, UInt8.ofNat_toNat]
  · -- None of the other ranges is that of a character.
    repeat' split at single
    all_goals cases single

/-- Bytes without a malformed sequence are those of their characters, after the bytes of a sequence that was begun. -/
theorem eq_of_piecesAfter (chars : List Char) (rest : List UInt8) :
    (piecesAfter none rest = chars.map some → rest = chars.flatMap String.utf8EncodeChar) ∧
      ∀ before pending, Spelled before pending → piecesAfter (some pending) rest = chars.map some →
        before ++ rest = chars.flatMap String.utf8EncodeChar := by
  -- The induction is on the bytes; each of them is a character, begins one, goes on with one or ends one.
  induction rest generalizing chars with
  | nil =>
    refine ⟨fun whole => ?_, fun before pending _ whole => ?_⟩
    · obtain rfl : chars = [] := by simpa [piecesAfter, Decoder.finish] using whole.symm
      rfl
    · rw [piecesAfter_unfinished] at whole
      cases chars <;> simp at whole
  | cons byte rest ih =>
    refine ⟨fun whole => ?_, fun before pending spelled whole => ?_⟩
    · rw [piecesAfter_none] at whole
      cases kind : lead byte with
      | malformed =>
        rw [kind] at whole
        cases chars <;> simp at whole
      | opening pending =>
        rw [kind] at whole
        exact (ih chars).2 [byte] pending (spelled_of_lead kind) whole
      | single char =>
        rw [kind] at whole
        cases chars with
        | nil => simp at whole
        | cons first others =>
          simp only [List.map_cons, List.cons.injEq, Option.some.injEq] at whole
          obtain ⟨rfl, whole⟩ := whole
          rw [List.flatMap_cons, utf8EncodeChar_of_lead kind, ← (ih others).1 whole]
          rfl
    · -- A byte that is not due would have left a malformed piece.
      by_cases due : pending.low ≤ byte ∧ byte ≤ pending.high
      · cases later : pending.later with
        | zero =>
          rw [piecesAfter_last due later] at whole
          cases chars with
          | nil => simp at whole
          | cons first others =>
            simp only [List.map_cons, List.cons.injEq, Option.some.injEq] at whole
            obtain ⟨rfl, whole⟩ := whole
            rw [List.flatMap_cons, spelled.last due later, ← (ih others).1 whole]
            simp
        | succ later' =>
          rw [piecesAfter_next due later] at whole
          have more := (ih chars).2 _ _ (spelled.next due later) whole
          simpa using more
      · rw [piecesAfter_undue due] at whole
        cases chars <;> simp at whole

/-- A byte that can begin a sequence does. -/
theorem lead_of_spelled (spelled : Spelled [byte] pending) : lead byte = .opening pending := by
  -- The bounds on the byte after it are told by their numbers.
  have bound {given : UInt8} (listed : UInt8) (same : given.toNat = listed.toNat) : given = listed :=
    UInt8.toNat_inj.mp same
  unfold lead
  dsimp only
  cases spelled with
  -- In each case the byte falls into the range of its mark and into none before.
  | two _ value mark least most =>
    rw [if_neg (by omega), if_neg (by omega), if_pos (by omega), mark, Nat.add_sub_cancel_left]
  | three _ value low high mark most least greatest =>
    rw [if_neg (by omega), if_neg (by omega), if_neg (by omega)]
    by_cases zero : value = 0
    · subst zero
      rw [if_pos mark, bound 0xA0 least, bound 0xBF greatest]
    · rw [if_neg (by omega)]
      rw [if_neg zero] at least
      by_cases surrogate : value = 0xD
      · subst surrogate
        rw [if_pos mark, bound 0x80 least, bound 0x9F greatest]
      · rw [if_neg surrogate] at greatest
        rw [if_neg (by omega), if_pos (by omega), mark, Nat.add_sub_cancel_left, bound 0x80 least,
          bound 0xBF greatest]
  | four _ value low high mark most least greatest =>
    rw [if_neg (by omega), if_neg (by omega), if_neg (by omega), if_neg (by omega), if_neg (by omega),
      if_neg (by omega)]
    by_cases zero : value = 0
    · subst zero
      rw [if_pos mark, bound 0x90 least, bound 0xBF greatest]
    · rw [if_neg (by omega)]
      rw [if_neg zero] at least
      by_cases last : value = 4
      · subst last
        rw [if_neg (by omega), if_pos mark, bound 0x80 least, bound 0x8F greatest]
      · rw [if_neg last] at greatest
        rw [if_pos (by omega), mark, Nat.add_sub_cancel_left, bound 0x80 least,
          bound 0xBF greatest]

/-- The last byte that was due gives the character whose number is put together. -/
theorem piecesAfter_of_number (due : pending.low ≤ byte ∧ byte ≤ pending.high)
    (done : pending.later = 0) (number : pending.value * 64 + (byte.toNat - 0x80) = char.toNat) :
    piecesAfter (some pending) (byte :: rest) = some char :: piecesAfter none rest := by
  rw [piecesAfter_last due done, number, Char.ofNat_toNat]

/-- A character is found first in its bytes. -/
theorem piecesAfter_encode (char : Char) (rest : List UInt8) :
    piecesAfter none (String.utf8EncodeChar char ++ rest) = some char :: piecesAfter none rest := by
  have valid := toNat_valid char
  have form := form_utf8EncodeChar char
  -- Six bits behind the mark are within the widest range.
  have wide {byte : UInt8} {bits : Nat} (mark : byte.toNat = 0x80 + bits % 64) :
      (0x80 : UInt8) ≤ byte ∧ byte ≤ 0xBF := by
    rw [UInt8.le_iff_toNat_le, UInt8.le_iff_toNat_le, mark]
    change 0x80 ≤ 0x80 + bits % 64 ∧ 0x80 + bits % 64 ≤ 0xBF
    omega
  generalize String.utf8EncodeChar char = bytes at form
  cases form with
  | one first most mark =>
    have single : lead first = .single char := by
      unfold lead
      rw [mark, if_pos most, Char.ofNat_toNat]
    rw [List.singleton_append, piecesAfter_none, single]
  | two first second least most mark last =>
    have begun := lead_of_spelled (.two first (char.toNat / 64) mark (by omega) (by omega))
    rw [List.cons_append, List.singleton_append, piecesAfter_none, begun]
    exact piecesAfter_of_number (wide last) rfl (by dsimp only; omega)
  | three first second third least most mark inner last =>
    obtain ⟨low, atLeast⟩ := @exists_byte (if char.toNat / 4096 = 0 then 0xA0 else 0x80) (by split <;> omega)
    obtain ⟨high, atMost⟩ := @exists_byte (if char.toNat / 4096 = 0xD then 0x9F else 0xBF) (by split <;> omega)
    have begun := lead_of_spelled (.three first _ low high mark (by omega) atLeast atMost)
    -- The second byte is in the narrower range, since the character is neither overlong nor a surrogate.
    have narrow : low ≤ second ∧ second ≤ high := by
      rw [UInt8.le_iff_toNat_le, UInt8.le_iff_toNat_le, atLeast, atMost, inner]
      constructor <;> split <;> omega
    -- Mark by mark, the bits of the number are put together again.
    have number : (char.toNat / 4096 * 64 + (second.toNat - 0x80)) * 64 + (third.toNat - 0x80) = char.toNat := by
      omega
    simp only [List.cons_append, List.nil_append]
    rw [piecesAfter_none, begun]
    dsimp only
    rw [piecesAfter_next narrow rfl]
    exact piecesAfter_of_number (wide last) rfl number
  | four first second third fourth least mark inner inner' last =>
    obtain ⟨low, atLeast⟩ := @exists_byte (if char.toNat / 262144 = 0 then 0x90 else 0x80) (by split <;> omega)
    obtain ⟨high, atMost⟩ := @exists_byte (if char.toNat / 262144 = 4 then 0x8F else 0xBF) (by split <;> omega)
    have begun := lead_of_spelled (.four first _ low high mark (by omega) atLeast atMost)
    -- Here the narrower range leaves out what is overlong or beyond the last character.
    have narrow : low ≤ second ∧ second ≤ high := by
      rw [UInt8.le_iff_toNat_le, UInt8.le_iff_toNat_le, atLeast, atMost, inner]
      constructor <;> split <;> omega
    have number : ((char.toNat / 262144 * 64 + (second.toNat - 0x80)) * 64 + (third.toNat - 0x80)) * 64 +
        (fourth.toNat - 0x80) = char.toNat := by
      omega
    simp only [List.cons_append, List.nil_append]
    rw [piecesAfter_none, begun]
    dsimp only
    rw [piecesAfter_next narrow rfl, piecesAfter_next (wide inner') rfl]
    exact piecesAfter_of_number (wide last) rfl number

/-- The pieces of a text's bytes are its characters. -/
theorem pieces_encode (text : String) : pieces (encode text) = text.toList.map some := by
  -- The characters are found one after the other.
  have each (chars : List Char) :
      piecesAfter none (chars.flatMap String.utf8EncodeChar) = chars.map some := by
    induction chars with
    | nil => rfl
    | cons char rest ih => rw [List.flatMap_cons, piecesAfter_encode, ih, List.map_cons]
  exact each text.toList

/-- A text is read back from its bytes. -/
@[simp]
theorem decode?_encode (text : String) : decode? (encode text) = some text := by
  unfold decode?
  rw [pieces_encode]
  simp [Function.comp_def]

/-- Well-formed bytes are those of their text. -/
theorem decode?_eq_some {text : String} : decode? bytes = some text ↔ bytes = encode text := by
  constructor
  · -- A text is only given where no piece is malformed.
    intro decoded
    unfold decode? at decoded
    dsimp only at decoded
    split at decoded
    · rename_i whole
      cases decoded
      -- With nothing malformed among the pieces, they are what was kept of them.
      have kept : piecesAfter none bytes = ((pieces bytes).filterMap id).map some := by
        change pieces bytes = _
        generalize pieces bytes = found at whole
        induction found with
        | nil => rfl
        | cons piece rest ih =>
          simp only [List.all_cons, Bool.and_eq_true] at whole
          obtain ⟨char, rfl⟩ := Option.isSome_iff_exists.mp whole.1
          rw [ih whole.2]
          simp
      rw [encode_ofList]
      exact (eq_of_piecesAfter _ bytes).1 kept
    · cases decoded
  · rintro rfl
    exact decode?_encode text

/-- The bytes of a lesser character come before those of a greater one, whatever follows. -/
theorem utf8EncodeChar_append_lt (less : char < other) (rest rest' : List UInt8) :
    String.utf8EncodeChar char ++ rest < String.utf8EncodeChar other ++ rest' := by
  have numbers : char.toNat < other.toNat := less
  have form := form_utf8EncodeChar char
  have form' := form_utf8EncodeChar other
  generalize String.utf8EncodeChar char = bytes at form
  generalize String.utf8EncodeChar other = bytes' at form'
  -- More bytes have a greater first one; among as many, the first two that differ decide.
  cases form <;> cases form' <;>
    simp only [List.cons_append, List.nil_append, List.cons_lt_cons_iff, UInt8.lt_iff_toNat_lt,
      ← UInt8.toNat_inj] <;>
    omega

/-- Texts are ordered as their bytes are. -/
theorem encode_lt_encode {text text' : String} (less : text < text') : encode text < encode text' := by
  rw [String.lt_iff] at less
  unfold encode
  generalize text.toList = chars at less
  generalize text'.toList = chars' at less
  -- The induction is on the first text: the first two characters that differ decide.
  induction chars generalizing chars' with
  | nil =>
    cases chars' with
    | nil => exact absurd less (List.lt_irrefl _)
    -- A text that is over comes before any byte.
    | cons other rest' =>
      rw [List.flatMap_nil, List.flatMap_cons]
      cases first : String.utf8EncodeChar other with
      | nil => exact absurd first String.utf8EncodeChar_ne_nil
      | cons byte more => exact List.nil_lt_cons _ _
  | cons char rest ih =>
    cases chars' with
    | nil => exact absurd less (List.not_lt_nil _)
    | cons other rest' =>
      rw [List.flatMap_cons, List.flatMap_cons]
      obtain before | ⟨rfl, more⟩ := List.cons_lt_cons_iff.mp less
      · exact utf8EncodeChar_append_lt before _ _
      · exact List.append_left_lt (ih rest' more)

end ImageHeader.Utf8
