import ImageHeader.Dump.Literals
import ImageHeader.Proofs.Header.Content
import ImageHeader.Proofs.Text.Ascii

/-! Literals: reading a dump back, and the lines into which it falls. -/

namespace ImageHeader.Literals

variable {columns index : Nat} {byte : UInt8} {bytes word rest : List UInt8}

/-- Whether a byte may stand between literals: a comma or a blank. -/
def separates (byte : UInt8) : Bool := byte = 0x2C || byte = 0x20 || (0x09 ≤ byte && byte ≤ 0x0D)

/-- The words of a text between commas and blanks. -/
def words (text : List UInt8) : List (List UInt8) := (text.splitOnP separates).filter (· ≠ [])

/-- The byte for which a word stands, if it is a literal. -/
def readWord? : List UInt8 → Option UInt8
  | [zero, mark, high, low] =>
    if zero = 0x30 ∧ mark = 0x78 then
      match Hex.value? (Char.ofNat high.toNat), Hex.value? (Char.ofNat low.toNat) with
      | some high, some low => some (UInt8.ofNat (16 * high + low))
      | _, _ => none
    else none
  | _ => none

/-- The bytes for which a text of literals stands, if it is one. -/
def readBack? (text : List UInt8) : Option (List UInt8) := (words text).mapM readWord?

/-- A separator belongs to no word. -/
theorem words_cons (separator : separates byte = true) (rest : List UInt8) :
    words (byte :: rest) = words rest := by
  simp [words, List.splitOnP_cons_eq_if_modifyHead, separator]

/-- Separators belong to no word. -/
theorem words_append (separators : ∀ byte ∈ word, separates byte = true) (rest : List UInt8) :
    words (word ++ rest) = words rest := by
  -- Each separator alone belongs to no word.
  induction word with
  | nil => rfl
  | cons byte more ih =>
    rw [List.cons_append, words_cons (separators byte List.mem_cons_self)]
    exact ih fun other member => separators other (List.mem_cons_of_mem _ member)

/-- A word goes up to the next separator or to the end. -/
theorem words_word (some_ : word ≠ []) (inside : ∀ byte ∈ word, separates byte = false)
    (after : ∀ byte, rest.head? = some byte → separates byte = true) :
    words (word ++ rest) = word :: words rest := by
  -- The word is all there is, or the separator after it cuts it off.
  cases rest with
  | nil =>
    have whole : word.splitOnP separates = [word] := List.splitOnP_eq_singleton inside
    simp [words, whole, some_]
  | cons byte more =>
    -- The cut is at the first separator, which the word does not hold.
    have separator : separates byte = true := after byte rfl
    rw [words_cons separator]
    have cut := List.splitOnP_append_cons_of_forall_mem inside byte separator more
    simp [words, cut, some_]

/-- A digit is ASCII and reads as its value. -/
theorem digit_reads : ∀ value ∈ List.range 16, (Hex.digit value).toNat < 0x80 ∧
    separates (UInt8.ofNat (Hex.digit value).toNat) = false ∧
    Hex.value? (Char.ofNat (UInt8.ofNat (Hex.digit value).toNat).toNat) = some value := by
  -- All sixteen digits are tried.
  decide

/-- The bytes of a literal. -/
def literalBytes (byte : UInt8) : List UInt8 := Utf8.encode (String.ofList (literal byte))

/-- A literal is a mark and two digits. -/
theorem literalBytes_eq (byte : UInt8) : literalBytes byte =
    [0x30, 0x78, UInt8.ofNat (Hex.digit (byte.toNat / 16)).toNat,
      UInt8.ofNat (Hex.digit (byte.toNat % 16)).toNat] := by
  have bound : byte.toNat < 256 := byte.toNat_lt
  have high := (digit_reads (byte.toNat / 16) (List.mem_range.mpr (by omega))).1
  have low := (digit_reads (byte.toNat % 16) (List.mem_range.mpr (by omega))).1
  -- Both digits are ASCII, so that each is one byte.
  rw [literalBytes, Utf8.encode_ofList]
  simp only [literal, Hex.byte, List.flatMap_cons, List.flatMap_nil,
    Utf8.utf8EncodeChar_ascii high, Utf8.utf8EncodeChar_ascii low]
  rfl

/-- A literal is one word. -/
theorem separates_of_mem_literalBytes {other : UInt8} (member : other ∈ literalBytes byte) :
    separates other = false := by
  -- The mark and each digit are checked against the separators.
  have bound : byte.toNat < 256 := byte.toNat_lt
  have high := (digit_reads (byte.toNat / 16) (List.mem_range.mpr (by omega))).2.1
  have low := (digit_reads (byte.toNat % 16) (List.mem_range.mpr (by omega))).2.1
  rw [literalBytes_eq] at member
  simp only [List.mem_cons, List.not_mem_nil, or_false] at member
  rcases member with rfl | rfl | rfl | rfl
  · decide
  · decide
  · exact high
  · exact low

/-- A literal reads as its byte. -/
theorem readWord?_literalBytes (byte : UInt8) : readWord? (literalBytes byte) = some byte := by
  -- The digits are the two halves of the byte.
  have bound : byte.toNat < 256 := byte.toNat_lt
  have high := (digit_reads (byte.toNat / 16) (List.mem_range.mpr (by omega))).2.2
  have low := (digit_reads (byte.toNat % 16) (List.mem_range.mpr (by omega))).2.2
  have halves : 16 * (byte.toNat / 16) + byte.toNat % 16 = byte.toNat := by omega
  rw [literalBytes_eq, readWord?, if_pos ⟨rfl, rfl⟩, high, low]
  simp only [halves, UInt8.ofNat_toNat]

/-- Literals read as their bytes. -/
theorem mapM_readWord? (bytes : List UInt8) :
    (bytes.map literalBytes).mapM readWord? = some bytes := by
  -- Every word reads as its own byte.
  induction bytes with
  | nil => rfl
  | cons byte rest ih => simp [List.mapM_cons, readWord?_literalBytes, ih]

/-- What stands before a literal, as bytes. -/
def separatorBytes (columns index : Nat) : List UInt8 :=
  Utf8.encode (String.ofList (separator columns index))

/-- What stands before a literal is one of three texts, with a line end exactly where a new row begins. -/
theorem separatorBytes_cases (columns index : Nat) :
    (index % columns ≠ 0 ∧ separatorBytes columns index = [0x2C, 0x20]) ∨
      (index = 0 ∧ separatorBytes columns index = [0x20, 0x20]) ∨
      (index % columns = 0 ∧ index ≠ 0 ∧ separatorBytes columns index = [0x2C, lineEnd, 0x20, 0x20]) := by
  -- The cases are those of the definition, in its order.
  unfold separatorBytes separator
  by_cases inside : index % columns ≠ 0
  · exact .inl ⟨inside, by rw [if_pos inside]; decide⟩
  · by_cases first : index = 0
    · exact .inr (.inl ⟨first, by rw [if_neg inside, if_pos first]; decide⟩)
    · exact .inr (.inr ⟨not_not.mp inside, first, by rw [if_neg inside, if_neg first]; decide⟩)

/-- The bytes of the literals from an index on. -/
def literalBytesFrom (columns index : Nat) (bytes : List UInt8) : List UInt8 :=
  Utf8.encode (String.ofList (literalsFrom columns index bytes))

/-- Each literal stands after what separates it from the one before. -/
theorem literalBytesFrom_cons : literalBytesFrom columns index (byte :: bytes) =
    separatorBytes columns index ++ (literalBytes byte ++ literalBytesFrom columns (index + 1) bytes) := by
  simp [literalBytesFrom, separatorBytes, literalBytes, Utf8.encode_ofList, literalsFrom]

/-- What stands before a literal separates words, and is not empty. -/
theorem separates_separatorBytes (columns index : Nat) :
    (∀ byte ∈ separatorBytes columns index, separates byte = true) ∧
      separatorBytes columns index ≠ [] := by
  -- Each of the three texts is checked byte by byte.
  obtain ⟨_, same⟩ | ⟨_, same⟩ | ⟨_, _, same⟩ := separatorBytes_cases columns index <;> rw [same]
  · exact ⟨List.all_eq_true.mp (by decide), by simp⟩
  · exact ⟨List.all_eq_true.mp (by decide), by simp⟩
  · exact ⟨List.all_eq_true.mp (by decide), by simp⟩

/-- The words of a text of literals are those literals, in order. -/
theorem words_literalBytesFrom (columns index : Nat) (bytes : List UInt8)
    (after : ∀ byte, rest.head? = some byte → separates byte = true) :
    words (literalBytesFrom columns index bytes ++ rest) = bytes.map literalBytes ++ words rest := by
  -- The induction is on the bytes: each literal ends where what separates it from the next one begins.
  induction bytes generalizing index with
  | nil => rfl
  | cons byte bytes ih =>
    -- After a literal comes a separator, or what follows the last literal.
    have begins : ∀ other, (literalBytesFrom columns (index + 1) bytes ++ rest).head? = some other →
        separates other = true := by
      intro other head
      cases bytes with
      | nil => exact after other head
      | cons next more =>
        obtain ⟨all, some_⟩ := separates_separatorBytes columns (index + 1)
        rw [literalBytesFrom_cons] at head
        cases shape : separatorBytes columns (index + 1) with
        | nil => exact absurd shape some_
        | cons first others =>
          rw [shape] at head all
          obtain rfl : first = other := by simpa using head
          exact all first List.mem_cons_self
    have nonempty : literalBytes byte ≠ [] := by simp [literalBytes_eq]
    rw [literalBytesFrom_cons, List.append_assoc, List.append_assoc,
      words_append (separates_separatorBytes columns index).1,
      words_word nonempty (fun _ => separates_of_mem_literalBytes) begins, ih (index + 1)]
    rfl

/-- The rows of literals of a dump. -/
def rows (columns : Nat) (bytes : List UInt8) : List UInt8 :=
  literalBytesFrom (max columns 1) 0 bytes ++ (if bytes = [] then [] else [lineEnd])

/-- Reading the rows of a dump gives the bytes back. -/
theorem readBack?_rows (columns : Nat) (bytes : List UInt8) :
    readBack? (rows columns bytes) = some bytes := by
  -- The line end after the last literal is no word, so the words are the literals alone.
  have ending : words (if bytes = [] then [] else [lineEnd]) = [] := by
    split <;> decide
  have after : ∀ byte, (if bytes = [] then [] else [lineEnd]).head? = some byte →
      separates byte = true := by
    intro byte head
    split at head
    · cases head
    · cases head
      decide
  rw [readBack?, rows, words_literalBytesFrom _ _ _ after, ending, List.append_nil, mapM_readWord?]

/-- A literal holds no line end. -/
theorem count_lineEnd_literalBytes (byte : UInt8) : (literalBytes byte).count lineEnd = 0 := by
  refine List.count_eq_zero.mpr fun member => ?_
  -- A line end separates, and no byte of a literal does.
  have inside := separates_of_mem_literalBytes member
  exact absurd inside (by decide)

/-- No separator is missing: from the second literal on, each row ends where the index is a multiple of its length. -/
theorem count_literalBytesFrom (columns index : Nat) (bytes : List UInt8) :
    index / columns + (literalBytesFrom columns (index + 1) bytes).count lineEnd =
      (index + bytes.length) / columns := by
  -- The induction is on the bytes; one index further a new row begins or not.
  induction bytes generalizing index with
  | nil => rfl
  | cons byte rest ih =>
    have quiet := count_lineEnd_literalBytes byte
    have more := ih (index + 1)
    have shift : index + 1 + rest.length = index + (rest.length + 1) := by omega
    rw [Nat.succ_div, shift] at more
    rw [literalBytesFrom_cons, List.count_append, List.count_append, quiet, List.length_cons]
    obtain ⟨inside, same⟩ | ⟨zero, _⟩ | ⟨begins, _, same⟩ := separatorBytes_cases columns (index + 1)
    · -- Within a row no line end comes.
      have apart : ¬columns ∣ index + 1 := fun divides => inside (Nat.mod_eq_zero_of_dvd divides)
      have none : (separatorBytes columns (index + 1)).count lineEnd = 0 := by
        rw [same]
        decide
      rw [if_neg apart] at more
      rw [none]
      omega
    · -- Only the very first literal has the index zero.
      omega
    · -- A new row begins, so the one before was ended.
      have divides : columns ∣ index + 1 := Nat.dvd_of_mod_eq_zero begins
      have one : (separatorBytes columns (index + 1)).count lineEnd = 1 := by
        rw [same]
        decide
      rw [if_pos divides] at more
      rw [one]
      omega

/-- The rows of a dump end with a line end, if there are any. -/
theorem ended_rows (columns : Nat) (bytes : List UInt8) : Ended (rows columns bytes) := by
  unfold rows
  split
  · -- Without literals there are no rows.
    rename_i none
    subst none
    exact .inl rfl
  · exact .inr (by simp)

/-- There are as many rows as it takes to hold the literals. -/
theorem length_linesOf_rows (columns : Nat) (bytes : List UInt8) :
    (linesOf (rows columns bytes)).length =
      (bytes.length + max columns 1 - 1) / max columns 1 := by
  -- The rows are counted by their line ends.
  rw [length_linesOf (ended_rows columns bytes), rows]
  have positive : 0 < max columns 1 := by omega
  generalize max columns 1 = width at positive
  cases bytes with
  | nil =>
    -- Without literals there is no row.
    have none : (0 + width - 1) / width = 0 := Nat.div_eq_of_lt (by omega)
    rw [List.length_nil, none]
    rfl
  | cons byte rest =>
    -- The first literal opens a row, and the line end after the last one closes one.
    have opened : (separatorBytes width 0).count lineEnd = 0 := by
      obtain ⟨inside, _⟩ | ⟨_, same⟩ | ⟨_, apart, _⟩ := separatorBytes_cases width 0
      · exact absurd (Nat.zero_mod width) inside
      · rw [same]
        decide
      · exact absurd rfl apart
    have quiet := count_lineEnd_literalBytes byte
    have others := count_literalBytesFrom width 0 rest
    rw [Nat.zero_div, Nat.zero_add, Nat.zero_add] at others
    rw [if_neg (by simp), literalBytesFrom_cons, List.count_append, List.count_append,
      List.count_append, opened, quiet, others, List.length_cons]
    have whole : rest.length + 1 + width - 1 = rest.length + width := by omega
    rw [whole, Nat.add_div_right _ positive]
    simp

/-- No byte of a path becomes a line end in an array name. -/
theorem nameChar_ne_newline (byte : UInt8) : nameChar byte ≠ '\n' := by
  -- Only the character of a line end could become one, and that is no letter or digit.
  intro same
  unfold nameChar at same
  split at same
  · rename_i letter
    have bound : byte.toNat < 256 := byte.toNat_lt
    -- The character has the number of the byte.
    have code : byte.toNat = 10 := by
      have valid : byte.toNat.isValidChar := .inl (by omega)
      rw [Char.ofNat, dif_pos valid] at same
      exact congrArg Char.toNat same
    obtain rfl : byte = 10 := UInt8.toNat_inj.mp code
    exact absurd letter (by decide)
  · cases same

/-- An array name is on one line. -/
theorem newline_notMem_arrayName (label : Path) : '\n' ∉ arrayName label := by
  have mapped : '\n' ∉ label.bytes.map nameChar := by
    intro member
    obtain ⟨byte, _, same⟩ := List.mem_map.mp member
    exact nameChar_ne_newline byte same
  unfold arrayName
  -- What is put before a digit is no line end either.
  split
  · simpa using mapped
  · exact mapped

/-- The digits of a number are on one line. -/
theorem newline_notMem_digits (number : Nat) : '\n' ∉ (toString number).toList := by
  -- The digits of a number are digits.
  intro member
  have digits : '\n' ∈ Nat.toDigits 10 number := by
    rw [← Nat.toList_repr]
    exact member
  have digit := Nat.isDigit_of_mem_toDigits (by decide) (by decide) digits
  exact absurd digit (by decide)

/-- The first line of a dump, without its line end. -/
def opening (label : Path) : List Char := "unsigned char ".toList ++ arrayName label ++ "[] = \x7b".toList

/-- The last line of a dump, without its line end. -/
def ending (label : Path) (length : Nat) : List Char :=
  "unsigned int ".toList ++ arrayName label ++ "_len = ".toList ++ (toString length).toList ++ [';']

/-- A dump is cut at the line ends between its parts. -/
theorem render_eq (columns : Nat) (label : Path) (bytes : List UInt8) :
    render columns label bytes = String.ofList (opening label ++ ['\n'] ++
      (literalsFrom (max columns 1) 0 bytes ++ (if bytes = [] then [] else ['\n']) ++
        ("\x7d;\n".toList ++ (ending label bytes.length ++ ['\n'])))) := by
  -- Three of the fixed texts hold a line end; each is cut right after it.
  have opened : "[] = \x7b\n".toList = "[] = \x7b".toList ++ ['\n'] := by decide
  have closed : "\x7d;\nunsigned int ".toList = "\x7d;\n".toList ++ "unsigned int ".toList := by decide
  have ended : ";\n".toList = [';'] ++ ['\n'] := by decide
  unfold render opening ending
  rw [opened, closed, ended]
  simp only [List.append_assoc]

/-- A dump is a first line, the rows of its literals, the line that closes the array, and a last line. -/
theorem encode_render (columns : Nat) (label : Path) (bytes : List UInt8) :
    Utf8.encode (render columns label bytes) =
      Utf8.encode (String.ofList (opening label)) ++ lineEnd ::
        (rows columns bytes ++ (Header.arrayEnd ++
          (Utf8.encode (String.ofList (ending label bytes.length)) ++ [lineEnd]))) := by
  -- Encoding goes over the parts one by one, and a line end is its own byte.
  have newline : ['\n'].flatMap String.utf8EncodeChar = [lineEnd] := by decide
  have closing : "\x7d;\n".toList.flatMap String.utf8EncodeChar = Header.arrayEnd := by decide
  have row : (if bytes = [] then [] else ['\n']).flatMap String.utf8EncodeChar =
      if bytes = [] then [] else [lineEnd] := by
    split <;> decide
  rw [render_eq, rows, literalBytesFrom]
  simp only [Utf8.encode_ofList]
  rw [List.flatMap_append, List.flatMap_append, List.flatMap_append, List.flatMap_append,
    List.flatMap_append, List.flatMap_append, newline, closing, row]
  simp only [List.append_assoc, List.singleton_append]

/-- The first line of a dump is a single line, whatever its path is. -/
theorem lineEnd_notMem_opening (label : Path) :
    lineEnd ∉ Utf8.encode (String.ofList (opening label)) := by
  rw [Utf8.lineEnd_mem_encode, String.toList_ofList]
  intro member
  -- A line end would stand in one of the parts.
  rcases List.mem_append.mp member with earlier | bracket
  · rcases List.mem_append.mp earlier with type | name
    · exact absurd type (by decide)
    · exact newline_notMem_arrayName label name
  · exact absurd bracket (by decide)

/-- The last line of a dump is a single line, whatever its path is. -/
theorem lineEnd_notMem_ending (label : Path) (length : Nat) :
    lineEnd ∉ Utf8.encode (String.ofList (ending label length)) := by
  rw [Utf8.lineEnd_mem_encode, String.toList_ofList]
  intro member
  -- A line end would stand in one of the parts.
  rcases List.mem_append.mp member with earlier | semicolon
  · rcases List.mem_append.mp earlier with before | digits
    · rcases List.mem_append.mp before with start | equals
      · rcases List.mem_append.mp start with type | name
        · exact absurd type (by decide)
        · exact newline_notMem_arrayName label name
      · exact absurd equals (by decide)
    · exact newline_notMem_digits length digits
  · exact absurd semicolon (by decide)

/-- The lines of a dump: the one that opens the array, its rows, the one that closes it, and the one with the length. -/
theorem linesOf_render (columns : Nat) (label : Path) (bytes : List UInt8) :
    linesOf (Utf8.encode (render columns label bytes)) =
      Header.lineOf (String.ofList (opening label)) :: (linesOf (rows columns bytes) ++
        [Header.arrayEnd, Header.lineOf (String.ofList (ending label bytes.length))]) := by
  -- What the first and the last line say does not matter, only that each is one line.
  have opened := lineEnd_notMem_opening label
  have ended := lineEnd_notMem_ending label bytes.length
  rw [encode_render, Header.lineOf, Header.lineOf]
  generalize Utf8.encode (String.ofList (opening label)) = first at opened ⊢
  generalize Utf8.encode (String.ofList (ending label bytes.length)) = last at ended ⊢
  -- Each of the four parts ends with a line end, so the lines are those of the parts.
  have closing : linesOf (Header.arrayEnd ++ (last ++ [lineEnd])) =
      [Header.arrayEnd, last ++ [lineEnd]] := by
    have array : Ended Header.arrayEnd := .inr (by decide)
    have single : linesOf Header.arrayEnd = [Header.arrayEnd] := by decide
    rw [linesOf_append array, single, linesOf_append_lineEnd last ended]
    rfl
  rw [linesOf_append_lineEnd first opened, linesOf_append (ended_rows columns bytes), closing]

/-- The lines of a dump but the first and the last are its rows and the line that closes the array. -/
theorem interior_render (columns : Nat) (label : Path) (bytes : List UInt8) :
    interior (Utf8.encode (render columns label bytes)) =
      linesOf (rows columns bytes) ++ [Header.arrayEnd] := by
  rw [interior, linesOf_render, List.tail_cons]
  simp

/-- A dump of literals closes the array in its last line but one. -/
theorem endsClosed_interior_render (columns : Nat) (label : Path) (bytes : List UInt8) :
    endsClosed (interior (Utf8.encode (render columns label bytes))) = true := by
  -- Behind the rows stands the line that closes the array.
  rw [interior_render, endsClosed, List.getLast?_concat]
  decide

end ImageHeader.Literals
