import ImageHeader.Proofs.Text.Utf8

/-!
Lossy decoding: each character is read, and each maximal malformed sequence is marked.

What is read of some bytes is described without a decoder, and nothing else fits the description. An ASCII byte belongs
to no longer sequence, so that bytes can be decoded apart wherever one stands at the seam.
-/

namespace ImageHeader.Utf8

variable {byte : UInt8} {pending : Pending} {bytes bad rest front : List UInt8} {text text' : List Char}

/-- Bytes with which those of a character begin, or which are all of them. -/
def Begins (bytes : List UInt8) : Prop := ∃ char, bytes <+: String.utf8EncodeChar char

/-- Bytes that are malformed where others follow: no character stands at their front, and they are a single byte or
begin a character, but not together with the byte that follows. -/
structure Malformed (bad rest : List UInt8) : Prop where
  filled : bad ≠ []
  noChar : ∀ char, ¬String.utf8EncodeChar char <+: bad
  begun : bad.length = 1 ∨ Begins bad
  maximal : ∀ byte, rest.head? = some byte → ¬Begins (bad ++ [byte])

/-- What is read of some bytes: their characters, with U+FFFD for each maximal malformed sequence. -/
inductive Lossy : List UInt8 → List Char → Prop
  | done : Lossy [] []
  | char (char : Char) {rest : List UInt8} {text : List Char} (more : Lossy rest text) :
      Lossy (String.utf8EncodeChar char ++ rest) (char :: text)
  | malformed {bad rest : List UInt8} {text : List Char} (cut : Malformed bad rest) (more : Lossy rest text) :
      Lossy (bad ++ rest) ('\uFFFD' :: text)

section Reading

/-- A character that stands at the front of some bytes is their first piece. -/
theorem head?_piecesAfter {char : Char} (stands : String.utf8EncodeChar char <+: bytes) :
    (piecesAfter none bytes).head? = some (some char) := by
  obtain ⟨rest, rfl⟩ := stands
  rw [piecesAfter_encode, List.head?_cons]

/-- Bytes after which a sequence is unfinished, and which spell it. -/
structure Reached (before : List UInt8) (pending : Pending) : Prop where
  spelled : Spelled before pending
  after : ∀ rest, piecesAfter none (before ++ rest) = piecesAfter (some pending) rest

/-- A byte that opens a sequence leaves it unfinished. -/
theorem reached_of_lead (opening : lead byte = .opening pending) : Reached [byte] pending where
  spelled := spelled_of_lead opening
  after rest := by rw [List.singleton_append, piecesAfter_none, opening]

/-- A byte that was due, but is not the last one, leaves the sequence unfinished. -/
theorem Reached.next {later : Nat} (reached : Reached front pending)
    (due : pending.low ≤ byte ∧ byte ≤ pending.high) (more : pending.later = later + 1) :
    Reached (front ++ [byte]) (pending.next byte later) where
  spelled := reached.spelled.next due more
  after rest := by rw [List.append_assoc, List.singleton_append, reached.after, piecesAfter_next due more]

/-- There is always a byte that is due. -/
theorem Spelled.low_le_high (spelled : Spelled bytes pending) : pending.low ≤ pending.high := by
  rw [UInt8.le_iff_toNat_le]
  -- Only the second byte of three or four may be bound more narrowly.
  cases spelled with
  | two | twoOfThree | twoOfFour | threeOfFour =>
    show (0x80 : UInt8).toNat ≤ (0xBF : UInt8).toNat
    decide
  | three _ value low high _ _ least greatest =>
    show low.toNat ≤ high.toNat
    rw [least, greatest]
    split <;> split <;> omega
  | four _ value low high _ _ least greatest =>
    show low.toNat ≤ high.toNat
    rw [least, greatest]
    split <;> split <;> omega

/-- What spells an unfinished sequence begins a character. -/
theorem Spelled.begins (spelled : Spelled bytes pending) : Begins bytes := by
  -- The induction is on the number of bytes that are due; the least of them goes on with the sequence.
  have due : pending.low ≤ pending.low ∧ pending.low ≤ pending.high := ⟨UInt8.le_refl _, spelled.low_le_high⟩
  induction left : pending.later generalizing bytes pending with
  | zero => exact ⟨_, [pending.low], (spelled.last due left).symm⟩
  | succ later ih =>
    have longer := spelled.next due left
    obtain ⟨char, before⟩ := ih longer ⟨UInt8.le_refl _, longer.low_le_high⟩ rfl
    exact ⟨char, (List.prefix_append _ _).trans before⟩

/-- An unfinished sequence is malformed where the byte behind it is not due. -/
theorem Reached.malformed (reached : Reached front pending)
    (undue : ∀ byte, rest.head? = some byte → ¬(pending.low ≤ byte ∧ byte ≤ pending.high)) : Malformed front rest where
  filled := by cases reached.spelled <;> simp
  noChar char stands := by
    -- The pieces of an unfinished sequence alone are one that is malformed.
    have first := head?_piecesAfter stands
    have alone := reached.after []
    rw [List.append_nil] at alone
    rw [alone, piecesAfter_unfinished] at first
    cases first
  begun := .inr reached.spelled.begins
  maximal byte head := by
    rintro ⟨char, more, whole⟩
    -- The bytes of a character have no malformed piece.
    have first := head?_piecesAfter (List.prefix_refl (String.utf8EncodeChar char))
    rw [← whole, List.append_assoc, List.singleton_append, reached.after, piecesAfter_undue (undue byte head)] at first
    cases first

/-- A byte that opens no sequence is malformed alone. -/
theorem malformed_of_lead (bad : lead byte = .malformed) : Malformed [byte] rest := by
  have first (more : List UInt8) : (piecesAfter none (byte :: more)).head? = some none := by
    rw [piecesAfter_none, bad, List.head?_cons]
  -- Were it the first byte of a character, the character would be found there.
  have none_ (more : List UInt8) (char : Char) : ¬String.utf8EncodeChar char <+: byte :: more := by
    intro stands
    have other := head?_piecesAfter stands
    rw [first] at other
    cases other
  refine ⟨by simp, none_ [], .inl rfl, fun next _ => ?_⟩
  rintro ⟨char, more, whole⟩
  exact none_ (next :: more) char (by rw [← whole]; exact List.prefix_refl _)

/-- What the decoder reads of some bytes is what is to be read, after a sequence that was begun or not. -/
theorem lossy_piecesAfter (bytes : List UInt8) :
    Lossy bytes ((piecesAfter none bytes).map fun piece => piece.getD '\uFFFD') ∧
      ∀ before pending, Reached before pending →
        Lossy (before ++ bytes) ((piecesAfter (some pending) bytes).map fun piece => piece.getD '\uFFFD') := by
  -- The induction is on the bytes; each of them is a character, begins one, goes on with one or ends one.
  induction bytes with
  | nil =>
    refine ⟨.done, fun before pending reached => ?_⟩
    rw [piecesAfter_unfinished]
    exact .malformed (reached.malformed (by simp)) .done
  | cons byte rest ih =>
    have fresh : Lossy (byte :: rest) ((piecesAfter none (byte :: rest)).map fun piece => piece.getD '\uFFFD') := by
      rw [piecesAfter_none]
      cases kind : lead byte with
      | single char =>
        have stands := Lossy.char char ih.1
        rwa [utf8EncodeChar_of_lead kind] at stands
      | opening pending => exact ih.2 [byte] pending (reached_of_lead kind)
      | malformed => exact .malformed (malformed_of_lead kind) ih.1
    refine ⟨fresh, fun before pending reached => ?_⟩
    by_cases due : pending.low ≤ byte ∧ byte ≤ pending.high
    · cases left : pending.later with
      | zero =>
        have stands := Lossy.char (Char.ofNat (pending.value * 64 + (byte.toNat - 0x80))) ih.1
        rw [reached.spelled.last due left, List.append_assoc] at stands
        rw [piecesAfter_last due left, List.map_cons, Option.getD_some]
        exact stands
      | succ later =>
        have more := ih.2 _ _ (reached.next due left)
        rw [List.append_assoc] at more
        rw [piecesAfter_next due left]
        exact more
    · -- What was begun is malformed, and the byte is read anew.
      rw [piecesAfter_undue due]
      refine .malformed (reached.malformed fun other head => ?_) fresh
      rw [List.head?_cons, Option.some_inj] at head
      rwa [← head]

/-- Of two malformed sequences at the front of the same bytes none is shorter. -/
theorem Malformed.length_le {bad' rest' : List UInt8} (cut : Malformed bad rest) (cut' : Malformed bad' rest')
    (same : bad ++ rest = bad' ++ rest') : bad'.length ≤ bad.length := by
  refine Nat.not_lt.mp fun longer => ?_
  have some_ : 0 < bad.length := List.length_pos_iff.mpr cut.filled
  obtain single | ⟨char, begun⟩ := cut'.begun
  · omega
  · -- Together with the byte behind it the shorter one would begin a character as well.
    obtain ⟨between, rfl⟩ : bad <+: bad' :=
      List.prefix_of_prefix_length_le (List.prefix_append bad rest) (same ▸ List.prefix_append bad' rest') (by omega)
    rw [List.append_assoc, List.append_cancel_left_eq] at same
    cases between with
    | nil => simp at longer
    | cons byte more =>
      refine cut.maximal byte (by rw [same]; rfl) ⟨char, List.IsPrefix.trans ⟨more, ?_⟩ begun⟩
      simp

/-- No character stands before bytes that are malformed. -/
theorem Malformed.not_prefix (cut : Malformed bad rest) (char : Char) :
    ¬String.utf8EncodeChar char <+: bad ++ rest := by
  intro stands
  by_cases shorter : (String.utf8EncodeChar char).length ≤ bad.length
  · exact cut.noChar char (List.prefix_of_prefix_length_le stands (List.prefix_append bad rest) shorter)
  · -- Otherwise its bytes go on behind the malformed ones.
    obtain ⟨between, whole⟩ : bad <+: String.utf8EncodeChar char :=
      List.prefix_of_prefix_length_le (List.prefix_append bad rest) stands (by omega)
    cases between with
    | nil =>
      rw [← whole, List.append_nil] at shorter
      omega
    | cons byte more =>
      rw [← whole, List.prefix_append_right_inj] at stands
      obtain ⟨others, split⟩ := stands
      refine cut.maximal byte (by rw [← split]; rfl) ⟨char, more, ?_⟩
      rw [← whole]
      simp

/-- There is only one thing to read of some bytes. -/
theorem Lossy.unique (lossy : Lossy bytes text) (lossy' : Lossy bytes text') : text = text' := by
  -- The induction is on what is read; the other reading has to begin in the same way.
  induction lossy generalizing text' with
  | done =>
    generalize none : ([] : List UInt8) = bytes at lossy'
    cases lossy' with
    | done => rfl
    | char char more => simp at none
    | malformed cut more => simp [cut.filled] at none
  | @char char rest text more ih =>
    generalize whole : String.utf8EncodeChar char ++ rest = bytes at lossy'
    cases lossy' with
    | done => simp at whole
    | @char char' rest' text' more' =>
      have first := head?_piecesAfter (List.prefix_append (String.utf8EncodeChar char) rest)
      rw [whole, head?_piecesAfter (List.prefix_append _ _), Option.some_inj, Option.some_inj] at first
      obtain rfl := first
      rw [List.append_cancel_left_eq] at whole
      rw [ih (whole ▸ more')]
    | malformed cut more' => exact absurd (whole ▸ List.prefix_append _ _) (cut.not_prefix char)
  | @malformed bad rest text cut more ih =>
    generalize whole : bad ++ rest = bytes at lossy'
    cases lossy' with
    | done => simp [cut.filled] at whole
    | char char more' => exact absurd (whole ▸ List.prefix_append _ _) (cut.not_prefix char)
    | @malformed bad' rest' text' cut' more' =>
      have lengths : bad.length = bad'.length :=
        Nat.le_antisymm (cut'.length_le cut whole.symm) (cut.length_le cut' whole)
      obtain ⟨rfl, rfl⟩ := List.append_inj whole lengths
      rw [ih more']

/-- What is read of some bytes is their lossy text. -/
theorem lossy_iff : Lossy bytes text ↔ text = (decodeLossy bytes).toList := by
  -- What the decoder gives is one reading, and there is one only.
  have decoded : Lossy bytes (decodeLossy bytes).toList := by
    rw [decodeLossy, String.toList_ofList]
    exact (lossy_piecesAfter bytes).1
  constructor
  · exact fun lossy => lossy.unique decoded
  · rintro rfl
    exact decoded

end Reading

section Seams

variable {first : List UInt8} {ascii : Char}

/-- Bytes that begin a character, with an ASCII byte among them, are that byte. -/
theorem Begins.eq_singleton (begins : Begins front) (member : byte ∈ front) (ascii : byte.toNat < 0x80) :
    front = [byte] := by
  obtain ⟨char, before⟩ := begins
  -- A byte that small stands in no other character.
  have same : byte.toNat = char.toNat := toNat_of_mem_utf8EncodeChar ascii (before.subset member)
  rw [utf8EncodeChar_ascii (by omega), ← same, UInt8.ofNat_toNat, List.prefix_cons_iff] at before
  obtain rfl | ⟨more, rfl, none⟩ := before
  · simp at member
  · rw [List.prefix_nil.mp none]

/-- No byte that is malformed is ASCII. -/
theorem Malformed.not_ascii (cut : Malformed bad rest) (member : byte ∈ bad) : 0x80 ≤ byte.toNat := by
  refine Nat.not_lt.mp fun ascii => ?_
  -- Otherwise it would be the only one, and a character.
  have alone : bad = [byte] := by
    obtain single | begun := cut.begun
    · obtain ⟨other, rfl⟩ := List.length_eq_one_iff.mp single
      rw [List.mem_singleton.mp member]
    · exact begun.eq_singleton member ascii
  have number : (Char.ofNat byte.toNat).toNat = byte.toNat := toNat_ofNat (.inl (by omega))
  have whole : String.utf8EncodeChar (Char.ofNat byte.toNat) = bad := by
    rw [utf8EncodeChar_ascii (by omega), number, UInt8.ofNat_toNat, alone]
  exact cut.noChar (Char.ofNat byte.toNat) (whole ▸ List.prefix_refl _)

/-- Bytes next to each other of which one is ASCII, if there are any on both sides. -/
def Seam (first rest : List UInt8) : Prop :=
  ∀ before after, first.getLast? = some before → rest.head? = some after → before.toNat < 0x80 ∨ after.toNat < 0x80

/-- What stands farther in front has no part in a seam. -/
theorem Seam.of_append (seam : Seam (front ++ first) rest) : Seam first rest := by
  intro before after last head
  exact seam before after (by rw [List.getLast?_append, last, Option.some_or]) head

/-- What is malformed is so whatever follows behind a seam. -/
theorem Malformed.append (cut : Malformed bad first) (seam : Seam (bad ++ first) rest) :
    Malformed bad (first ++ rest) where
  filled := cut.filled
  noChar := cut.noChar
  begun := cut.begun
  maximal byte head begins := by
    cases first with
    | cons next more => exact cut.maximal byte head begins
    | nil =>
      -- A byte on either side of the seam would be alone in what was begun, but there are two of them at least.
      have last : bad.getLast? = some (bad.getLast cut.filled) := List.getLast?_eq_some_getLast cut.filled
      rw [List.append_nil] at seam
      obtain ascii | ascii := seam _ _ last head
      · exact absurd (cut.not_ascii (List.mem_of_getLast? last)) (by omega)
      · have alone := begins.eq_singleton (by simp) ascii
        exact cut.filled (by simpa using alone)

/-- Bytes on both sides of a seam are read apart. -/
theorem Lossy.append (lossy : Lossy first text) (lossy' : Lossy rest text') (seam : Seam first rest) :
    Lossy (first ++ rest) (text ++ text') := by
  -- The induction is on the first reading; a sequence cut off by its end is also cut off by what follows.
  induction lossy with
  | done => exact lossy'
  | char char more ih =>
    rw [List.append_assoc]
    exact .char char (ih seam.of_append)
  | malformed cut more ih =>
    rw [List.append_assoc]
    exact .malformed (cut.append seam) (ih seam.of_append)

/-- The lossy text of bytes on both sides of a seam is put together of theirs. -/
theorem decodeLossy_append (seam : Seam first rest) :
    decodeLossy (first ++ rest) = decodeLossy first ++ decodeLossy rest := by
  have whole := (lossy_iff.mpr rfl).append (lossy_iff.mpr rfl) seam
  rw [← String.toList_inj, String.toList_append, lossy_iff.mp whole]

/-- An ASCII character is read exactly where its byte is. -/
theorem Lossy.mem_iff (lossy : Lossy bytes text) (small : ascii.toNat < 0x80) :
    ascii ∈ text ↔ UInt8.ofNat ascii.toNat ∈ bytes := by
  induction lossy with
  | done => simp
  | char char more ih => rw [List.mem_cons, List.mem_append, ofNat_mem_utf8EncodeChar small, ih, eq_comm]
  | @malformed bad rest text cut more ih =>
    -- The mark is not ASCII, and neither is what it stands for.
    have mark : ascii ≠ '\uFFFD' := by
      rintro rfl
      exact absurd small (by decide)
    have absent : UInt8.ofNat ascii.toNat ∉ bad := by
      intro member
      have large := cut.not_ascii member
      rw [UInt8.toNat_ofNat'] at large
      omega
    simp only [List.mem_cons, List.mem_append, mark, absent, false_or, ih]

/-- Where an ASCII character is read last, its byte is the last one. -/
theorem Lossy.getLast?_eq (lossy : Lossy bytes text) (small : ascii.toNat < 0x80) (last : text.getLast? = some ascii) :
    bytes.getLast? = some (UInt8.ofNat ascii.toNat) := by
  -- The induction is on what is read; a piece with nothing behind it has no other byte last.
  induction lossy with
  | done => simp at last
  | @char char rest text more ih =>
    cases more with
    | done =>
      obtain rfl : char = ascii := by simpa using last
      rw [utf8EncodeChar_ascii small, List.append_nil, List.getLast?_singleton]
    | char | malformed =>
      rw [List.getLast?_cons_cons] at last
      rw [List.getLast?_append, ih last, Option.some_or]
  | @malformed bad rest text cut more ih =>
    cases more with
    | done =>
      obtain rfl : '\uFFFD' = ascii := by simpa using last
      exact absurd small (by decide)
    | char | malformed =>
      rw [List.getLast?_cons_cons] at last
      rw [List.getLast?_append, ih last, Option.some_or]

/-- Where no mark is read, the bytes are those of the characters. -/
theorem Lossy.eq_flatMap (lossy : Lossy bytes text) (unmarked : '\uFFFD' ∉ text) :
    bytes = text.flatMap String.utf8EncodeChar := by
  induction lossy with
  | done => rfl
  | char char more ih => rw [List.flatMap_cons, ← ih fun member => unmarked (List.mem_cons_of_mem _ member)]
  | malformed cut more ih => simp at unmarked

/-- Where no mark is read, the bytes are those of the text. -/
theorem encode_decodeLossy (unmarked : '\uFFFD' ∉ (decodeLossy bytes).toList) : encode (decodeLossy bytes) = bytes :=
  ((lossy_iff.mpr rfl).eq_flatMap unmarked).symm

/-- The lossy text of a text's bytes is the text. -/
@[simp]
theorem decodeLossy_encode (text : String) : decodeLossy (encode text) = text := by
  rw [decodeLossy, pieces_encode, List.map_map]
  simp [Function.comp_def]

end Seams

section Mending

variable {first : List UInt8} {ascii : Char}

/-- The bytes of what is read of some bytes: the same ones, with the mark in place of what is malformed. -/
def mend (bytes : List UInt8) : List UInt8 := encode (decodeLossy bytes)

/-- A text has nothing to mend. -/
@[simp]
theorem mend_encode (text : String) : mend (encode text) = encode text := by
  rw [mend, decodeLossy_encode]

/-- Bytes on both sides of a seam are mended apart. -/
theorem mend_append (seam : Seam first rest) : mend (first ++ rest) = mend first ++ mend rest := by
  rw [mend, decodeLossy_append seam, encode_append, mend, mend]

/-- Mending leaves an ASCII character where it is. -/
theorem mem_mend_iff (small : ascii.toNat < 0x80) :
    UInt8.ofNat ascii.toNat ∈ mend bytes ↔ UInt8.ofNat ascii.toNat ∈ bytes := by
  rw [mend, ofNat_mem_encode small, (lossy_iff.mpr rfl).mem_iff small]

/-- Where there is anything, something is left when it is mended. -/
theorem mend_ne_nil (filled : bytes ≠ []) : mend bytes ≠ [] := by
  have read : Lossy bytes (decodeLossy bytes).toList := lossy_iff.mpr rfl
  rw [mend, encode]
  generalize (decodeLossy bytes).toList = text at read
  -- Whatever is read first, it has bytes.
  cases read with
  | done => exact absurd rfl filled
  | char | malformed => simp

end Mending

end ImageHeader.Utf8
