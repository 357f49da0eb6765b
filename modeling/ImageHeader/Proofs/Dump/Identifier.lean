import ImageHeader.Proofs.Config.Validation
import ImageHeader.Proofs.Dump.Literals
import ImageHeader.Proofs.Header.Limit
import ImageHeader.Proofs.Header.Transcription

/-!
Identifiers: the array names of paths are identifiers of source text, and all that a dump takes from its path.

Names are made byte by byte, and identifiers are judged character by character. The two meet in the ASCII characters,
where a byte of a path is kept exactly if it is a letter or a digit. A name holds no line end then, so that it stands in
the first and in the last line of a dump, and no other line depends on the path.
-/

namespace ImageHeader

variable {char : Char} {chars : List Char} {text : String}

/-- Identifiers are ASCII. -/
theorem ascii_of_continuesIdentifier (continues : continuesIdentifier char = true) : char.toNat < 0x80 := by
  have kinds : (((char.isUpper || char.isLower) || char.isDigit) || decide (char = '_')) = true := continues
  simp only [Bool.or_eq_true, decide_eq_true_eq] at kinds
  -- The last characters of each kind are ASCII.
  have last : 'Z'.val.toNat < 0x80 ∧ 'z'.val.toNat < 0x80 ∧ '9'.toNat < 0x80 := by decide
  have number : char.toNat = char.val.toNat := rfl
  obtain ((upper | lower) | digit) | rfl := kinds
  · have most : char.val ≤ 'Z'.val := (of_decide_eq_true upper).2
    rw [UInt32.le_iff_toNat_le] at most
    omega
  · have most : char.val ≤ 'z'.val := of_decide_eq_true (Bool.and_eq_true_iff.mp lower).2
    rw [UInt32.le_iff_toNat_le] at most
    omega
  · have most := (Char.isDigit_iff_toNat.mp digit).2
    omega
  · decide

/-- Of characters that may stand in an identifier each one has one byte. -/
theorem encode_of_continuesIdentifier (continues : ∀ char ∈ chars, continuesIdentifier char = true) :
    Utf8.encode (String.ofList chars) = chars.map fun char => UInt8.ofNat char.toNat := by
  rw [Utf8.encode_ofList]
  -- The induction is on the characters; each of them is ASCII, and so it is one byte.
  induction chars with
  | nil => rfl
  | cons first rest ih =>
    have single := Utf8.utf8EncodeChar_ascii (ascii_of_continuesIdentifier (continues first List.mem_cons_self))
    rw [List.flatMap_cons, single, ih fun char member => continues char (List.mem_cons_of_mem _ member)]
    rfl

namespace Literals

variable {label : Path} {byte : UInt8}

section Characters

/-- What holds for all numbers up to 0xFF holds for all bytes. -/
theorem forall_byte {holds : UInt8 → Prop} (all : ∀ value < 0x100, holds (UInt8.ofNat value)) (byte : UInt8) :
    holds byte := by
  have here := all byte.toNat byte.toNat_lt
  rwa [UInt8.ofNat_toNat] at here

/-- Whatever a byte becomes may go on with an identifier. -/
theorem continuesIdentifier_nameChar (byte : UInt8) : continuesIdentifier (nameChar byte) = true :=
  -- All bytes are tried.
  @forall_byte (fun byte => continuesIdentifier (nameChar byte) = true) (by decide +kernel) byte

/-- What a byte becomes may open an identifier exactly if the byte is no digit. -/
theorem opensIdentifier_nameChar (byte : UInt8) : opensIdentifier (nameChar byte) = !isDigit byte :=
  @forall_byte (fun byte => opensIdentifier (nameChar byte) = !isDigit byte) (by decide +kernel) byte

/-- A character that may go on with an identifier is what its byte becomes. -/
theorem nameChar_of_continuesIdentifier (continues : continuesIdentifier char = true) :
    nameChar (UInt8.ofNat char.toNat) = char := by
  -- All ASCII characters are tried.
  have kept : ∀ value < 0x80, continuesIdentifier (Char.ofNat value) = true →
      nameChar (UInt8.ofNat value) = Char.ofNat value := by decide +kernel
  have here := kept char.toNat (ascii_of_continuesIdentifier continues)
  rw [Char.ofNat_toNat] at here
  exact here continues

end Characters

section Names

/-- All characters of an array name may go on with an identifier. -/
theorem continuesIdentifier_of_mem_arrayName (member : char ∈ arrayName label) : continuesIdentifier char = true := by
  have mapped : ∀ char ∈ label.bytes.map nameChar, continuesIdentifier char = true := by
    intro char member
    obtain ⟨byte, _, rfl⟩ := List.mem_map.mp member
    exact continuesIdentifier_nameChar byte
  unfold arrayName at member
  -- What is put before a digit are two underscores.
  split at member
  · simp only [List.mem_cons] at member
    obtain rfl | rfl | later := member
    · decide
    · decide
    · exact mapped char later
  · exact mapped char member

/-- The array name of a path is an identifier, unless the path is empty. -/
theorem isIdentifier_arrayName (label : Path) :
    isIdentifier (String.ofList (arrayName label)) = true ↔ label.isEmpty = false := by
  have continues : ∀ char ∈ arrayName label, continuesIdentifier char = true :=
    fun _ => continuesIdentifier_of_mem_arrayName
  unfold isIdentifier
  rw [String.toList_ofList]
  obtain ⟨bytes⟩ := label
  cases bytes with
  | nil => simp [arrayName, Path.isEmpty]
  | cons first rest =>
    -- A digit at the front would open no identifier, but then two underscores come before it.
    have opens : ∃ front behind,
        arrayName ⟨first :: rest⟩ = front :: behind ∧ opensIdentifier front = true := by
      by_cases digit : isDigit first = true
      · exact ⟨'_', '_' :: (first :: rest).map nameChar, by simp [arrayName, digit], by decide⟩
      · exact ⟨nameChar first, rest.map nameChar, by simp [arrayName, digit],
          by simpa [opensIdentifier_nameChar] using digit⟩
    obtain ⟨front, behind, shape, opening⟩ := opens
    rw [shape] at continues ⊢
    simpa [Path.isEmpty, opening] using fun char member => continues char (List.mem_cons_of_mem _ member)

/-- An identifier is its own array name. -/
theorem arrayName_of_isIdentifier (identifier : isIdentifier text = true) :
    arrayName (.ofText text) = text.toList := by
  have continues := continuesIdentifier_of_mem identifier
  have bytes : (Path.ofText text).bytes = text.toList.map fun char => UInt8.ofNat char.toNat := by
    rw [← encode_of_continuesIdentifier continues, String.ofList_toList]
    rfl
  have back : (Path.ofText text).bytes.map nameChar = text.toList := by
    rw [bytes, List.map_map]
    exact (List.map_congr_left fun char member => nameChar_of_continuesIdentifier (continues char member)).trans
      (List.map_id _)
  -- The first character opens the identifier, so its byte is no digit.
  have open_ : (Path.ofText text).bytes.head?.any isDigit = false := by
    rw [bytes]
    unfold isIdentifier at identifier
    cases chars : text.toList with
    | nil => rfl
    | cons first rest =>
      rw [chars] at identifier continues
      have opens : opensIdentifier first = true := (Bool.and_eq_true_iff.mp identifier).1
      rw [← nameChar_of_continuesIdentifier (continues first List.mem_cons_self), opensIdentifier_nameChar] at opens
      simpa using opens
  unfold arrayName
  rw [open_, if_neg (by simp), back]

/-- The texts that are their own array names are the identifiers, and the empty text. -/
theorem arrayName_eq_self (text : String) :
    arrayName (.ofText text) = text.toList ↔ isIdentifier text = true ∨ text = "" := by
  constructor
  · intro same
    -- What is an array name is an identifier, unless its path is empty.
    have named := isIdentifier_arrayName (.ofText text)
    rw [same, String.ofList_toList] at named
    cases empty : (Path.ofText text).isEmpty with
    | true =>
      have none : (Path.ofText text).bytes = [] := List.isEmpty_iff.mp empty
      have nameless : arrayName (.ofText text) = [] := by simp [arrayName, none]
      rw [nameless] at same
      exact .inr (String.toList_eq_nil_iff.mp same.symm)
    | false => exact .inl (named.mpr empty)
  · rintro (identifier | rfl)
    · exact arrayName_of_isIdentifier identifier
    · decide

/-- The array name of a path that is spelled like an array name is that name. -/
theorem arrayName_arrayName (label : Path) :
    arrayName (.ofText (String.ofList (arrayName label))) = arrayName label := by
  have named : isIdentifier (String.ofList (arrayName label)) = true ∨ String.ofList (arrayName label) = "" := by
    cases empty : label.isEmpty with
    | true =>
      -- The empty path has no name at all.
      obtain ⟨bytes⟩ := label
      obtain rfl : bytes = [] := List.isEmpty_iff.mp empty
      exact .inr (by decide)
    | false => exact .inl ((isIdentifier_arrayName label).mpr empty)
  rw [(arrayName_eq_self _).mpr named, String.toList_ofList]

/-- An array name is as long as its path, or longer by two where the path has a digit at its front. -/
theorem length_encode_arrayName (label : Path) :
    (Utf8.encode (String.ofList (arrayName label))).length =
      label.bytes.length + (if label.bytes.head?.any isDigit then 2 else 0) := by
  rw [encode_of_continuesIdentifier fun _ => continuesIdentifier_of_mem_arrayName, List.length_map, arrayName]
  split <;> simp

end Names

/-- The array name of a path is an identifier unless the path is empty, and a path that is spelled like it has the same
array name, as all identifiers do. It has a character for each byte of the path, and two more if a digit comes first. A
dump holds it in its first and in its last line, which are single lines; the lines between them do not depend on the
path, and they are all that is copied of the dump, as far as there is room for them. -/
theorem arrayName_outside_body (columns : Nat) (bytes : List UInt8) :
    (∀ label,
      (isIdentifier (String.ofList (arrayName label)) = true ↔ label.isEmpty = false) ∧
      arrayName (.ofText (String.ofList (arrayName label))) = arrayName label ∧
      (Utf8.encode (String.ofList (arrayName label))).length =
        label.bytes.length + (if label.bytes.head?.any isDigit then 2 else 0)) ∧
    (∀ text, arrayName (.ofText text) = text.toList ↔ isIdentifier text = true ∨ text = "") ∧
    ∃ kept, ∀ label,
      CutInto (Utf8.encode (render columns label bytes))
        (Header.lineOf (String.ofList (opening label)) ::
          (kept ++ [Header.lineOf (String.ofList (ending label bytes.length))])) ∧
      Sink.Writes (Transcript.ofSource ⟨Utf8.encode (render columns label bytes), none⟩) kept.flatten
        (.ok (.ofLines kept)) := by
  refine ⟨fun label => ⟨isIdentifier_arrayName label, arrayName_arrayName label, length_encode_arrayName label⟩,
    arrayName_eq_self, linesOf (rows columns bytes) ++ [Header.arrayEnd], fun label => ⟨cutInto_iff.mpr ?lines, ?copied⟩⟩
  case lines =>
    rw [linesOf_render, List.append_assoc]
    rfl
  -- The opening and the ending are the two lines that are not copied.
  case copied =>
    have copied := Transcript.writes_ofSource ⟨Utf8.encode (render columns label bytes), none⟩
    rwa [Source.lines_eq_linesOf, ← interior, interior_render] at copied

end Literals

end ImageHeader
