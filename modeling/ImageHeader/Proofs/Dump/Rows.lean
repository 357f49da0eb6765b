import ImageHeader.Proofs.Dump.Literals
import ImageHeader.Proofs.Header.Transcription

/-!
Rows: a dump of literals said row by row.

The separators of a dump depend on the number of each literal alone. Put together they cut the literals into rows of
one length, of which only the last one may be shorter, and such rows can be cut in just one way.
-/

namespace ImageHeader.Literals

variable {width index : Nat} {bytes row : List UInt8} {rows other : List (List UInt8)}

/-- Rows into which some bytes are cut: all of one width but the last one, which holds a byte at least. -/
structure InRows (width : Nat) (bytes : List UInt8) (rows : List (List UInt8)) : Prop where
  /-- Nothing is lost, and nothing moved. -/
  whole : rows.flatten = bytes
  /-- A row stands before another only where it is full. -/
  full : ∀ row ∈ rows.dropLast, row.length = width
  /-- Each row holds a byte at least, and no more than there is room for. -/
  filled : ∀ row ∈ rows, 1 ≤ row.length ∧ row.length ≤ width

/-- The digits of literals in their order. -/
def digits : List Char := "0123456789abcdef".toList

/-- The literal of a byte: a mark, and the digits of its two halves. -/
def literalText (byte : UInt8) : List Char :=
  "0x".toList ++ (digits[byte.toNat / 16]?).toList ++ (digits[byte.toNat % 16]?).toList

/-- A row: two blanks, and its literals with a comma and a blank between them. -/
def rowText (row : List UInt8) : List Char := "  ".toList ++ ", ".toList.intercalate (row.map literalText)

/-- The rows of a dump with a comma and a line end between them, and a line end behind the last one. -/
def rowsText (rows : List (List UInt8)) : List Char :=
  if rows = [] then [] else ",\n".toList.intercalate (rows.map rowText) ++ "\n".toList

/-- A dump of so many bytes in rows, under a name. -/
def layout (name : List Char) (rows : List (List UInt8)) (count : Nat) : String :=
  String.ofList ("unsigned char ".toList ++ name ++ "[] = \x7b\n".toList ++ rowsText rows ++ "\x7d;\n".toList ++
    "unsigned int ".toList ++ name ++ "_len = ".toList ++ (toString count).toList ++ ";\n".toList)

section Cutting

/-- The first of some rows is as long as there are bytes for it, and the others are rows of the bytes behind it. -/
theorem InRows.uncons (cut : InRows width bytes (row :: rows)) :
    bytes ≠ [] ∧ row = bytes.take width ∧ InRows width (bytes.drop width) rows := by
  have first : 1 ≤ row.length ∧ row.length ≤ width := cut.filled row List.mem_cons_self
  have split : bytes = row ++ rows.flatten := by rw [← cut.whole, List.flatten_cons]
  have some_ : bytes ≠ [] := by
    intro none
    have lengths := congrArg List.length split
    simp only [none, List.length_nil, List.length_append] at lengths
    omega
  by_cases alone : rows = []
  · -- With no row behind it the first one holds all there is.
    subst alone
    rw [List.flatten_nil, List.append_nil] at split
    refine ⟨some_, ?_, ?_⟩
    · rw [split, List.take_of_length_le first.2]
    · rw [split, List.drop_of_length_le first.2]
      exact ⟨rfl, by simp, by simp⟩
  · -- A row behind it shows that the first one is full.
    have full : row.length = width := cut.full row (by simp [List.dropLast_cons_of_ne_nil alone])
    refine ⟨some_, ?_, ?_⟩
    · rw [split, List.take_left' full]
    · rw [split, List.drop_left' full]
      refine ⟨rfl, fun next member => cut.full next ?_, fun next member => cut.filled next (by simp [member])⟩
      rw [List.dropLast_cons_of_ne_nil alone]
      exact List.mem_cons_of_mem _ member

/-- There is only one way to cut bytes into rows. -/
theorem InRows.unique (cut : InRows width bytes rows) (cut' : InRows width bytes other) : rows = other := by
  -- The induction is on the rows; both ways have the same first row and cut the same bytes behind it.
  induction rows generalizing bytes other with
  | nil =>
    have none : bytes = [] := cut.whole.symm
    cases other with
    | nil => rfl
    | cons row more => exact absurd none cut'.uncons.1
  | cons row rest ih =>
    obtain ⟨some_, first, behind⟩ := cut.uncons
    cases other with
    | nil => exact absurd cut'.whole.symm some_
    | cons row' rest' =>
      obtain ⟨_, first', behind'⟩ := cut'.uncons
      rw [first, first', ih behind behind']

/-- Any bytes can be cut into rows. -/
theorem exists_inRows (positive : 0 < width) (bytes : List UInt8) : ∃ rows, InRows width bytes rows := by
  -- The induction is on the number of bytes; a row is taken from the front as long as any are left.
  induction counted : bytes.length using Nat.strong_induction_on generalizing bytes with
  | _ length ih =>
    by_cases none : bytes = []
    · exact ⟨[], by rw [none]; rfl, by simp, by simp⟩
    · have some_ : 0 < bytes.length := List.length_pos_iff.mpr none
      have shorter : (bytes.drop width).length < length := by
        rw [List.length_drop]
        omega
      have taken : (bytes.take width).length = min width bytes.length := List.length_take
      obtain ⟨rows, cut⟩ := ih _ shorter _ rfl
      refine ⟨bytes.take width :: rows, ?_, fun row member => ?_, fun row member => ?_⟩
      · rw [List.flatten_cons, cut.whole, List.take_append_drop]
      · by_cases alone : rows = []
        · simp [alone] at member
        · rw [List.dropLast_cons_of_ne_nil alone, List.mem_cons] at member
          rcases member with rfl | behind
          · -- The rows behind hold a byte, so there were more than one row takes.
            have more : bytes.drop width ≠ [] := by
              intro gone
              rw [gone] at cut
              exact alone (cut.unique ⟨rfl, by simp, by simp⟩)
            have left : 0 < (bytes.drop width).length := List.length_pos_iff.mpr more
            rw [List.length_drop] at left
            omega
          · exact cut.full row behind
      · rcases List.mem_cons.mp member with rfl | behind
        · omega
        · exact cut.filled row behind

end Cutting

section Text

/-- A literal is written with the digits in their order. -/
theorem literal_eq (byte : UInt8) : literal byte = literalText byte := by
  have bound : byte.toNat < 256 := byte.toNat_lt
  have listed : ∀ value < 16, digits[value]? = some (Hex.digit value) := by decide
  rw [literalText, listed _ (by omega), listed _ (by omega)]
  rfl

/-- The literals of two stretches stand one after the other. -/
theorem literalsFrom_append (columns index : Nat) (first second : List UInt8) :
    literalsFrom columns index (first ++ second) =
      literalsFrom columns index first ++ literalsFrom columns (index + first.length) second := by
  simp only [literalsFrom, List.zipIdx_append, List.flatMap_append]

/-- One literal after what separates it from the one before. -/
theorem literalsFrom_cons (columns index : Nat) (byte : UInt8) (rest : List UInt8) :
    literalsFrom columns index (byte :: rest) =
      separator columns index ++ (literal byte ++ literalsFrom columns (index + 1) rest) := by
  simp [literalsFrom]

/-- Behind a literal the others of its row follow, each after a comma and a blank. -/
theorem literal_append_literalsFrom (byte : UInt8) (rest : List UInt8)
    (inside : ∀ position < rest.length, (index + position) % width ≠ 0) :
    literal byte ++ literalsFrom width index rest = ", ".toList.intercalate ((byte :: rest).map literalText) := by
  -- The induction is on the literals to come; none of them opens a row.
  induction rest generalizing byte index with
  | nil => simp [literalsFrom, literal_eq]
  | cons next more ih =>
    have here : index % width ≠ 0 := inside 0 (by simp)
    have apart : separator width index = ", ".toList := by rw [separator, if_pos here]; rfl
    have later : ∀ position < more.length, (index + 1 + position) % width ≠ 0 := by
      intro position less
      have place := inside (position + 1) (by simpa using less)
      rwa [show index + (position + 1) = index + 1 + position by omega] at place
    rw [literalsFrom_cons, apart, ih next later, literal_eq]
    simp only [List.map_cons, List.intercalate_cons_cons, List.append_assoc]

/-- A row is written as such where one begins, behind the comma and the line end of the row before. -/
theorem literalsFrom_row (begins : index % width = 0) (some_ : 1 ≤ row.length) (fits : row.length ≤ width) :
    literalsFrom width index row = (if index = 0 then [] else ",\n".toList) ++ rowText row := by
  obtain ⟨byte, rest, rfl⟩ := List.exists_cons_of_ne_nil (List.ne_nil_of_length_pos some_)
  have opened : separator width index = (if index = 0 then [] else ",\n".toList) ++ "  ".toList := by
    rw [separator, if_neg (not_not.mpr begins)]
    split <;> rfl
  -- Up to the end of the row no number is a multiple of the width.
  have inside : ∀ position < rest.length, (index + 1 + position) % width ≠ 0 := by
    intro position less
    rw [List.length_cons] at fits
    rw [Nat.add_assoc, Nat.add_mod, begins, Nat.zero_add, Nat.mod_mod, Nat.mod_eq_of_lt (by omega)]
    omega
  rw [literalsFrom_cons, opened, literal_append_literalsFrom byte rest inside, rowText, List.append_assoc]

/-- The literals of some rows are written row by row. -/
theorem literalsFrom_rows (begins : index % width = 0) (some_ : rows ≠ [])
    (full : ∀ row ∈ rows.dropLast, row.length = width) (filled : ∀ row ∈ rows, 1 ≤ row.length ∧ row.length ≤ width) :
    literalsFrom width index rows.flatten =
      (if index = 0 then [] else ",\n".toList) ++ ",\n".toList.intercalate (rows.map rowText) := by
  -- The induction is on the rows; a full one leads to the next multiple of the width.
  induction rows generalizing index with
  | nil => exact absurd rfl some_
  | cons row rest ih =>
    obtain ⟨least, most⟩ := filled row List.mem_cons_self
    rw [List.flatten_cons, literalsFrom_append, literalsFrom_row begins least most]
    by_cases alone : rest = []
    · simp [alone, literalsFrom]
    · have whole : row.length = width := full row (by simp [List.dropLast_cons_of_ne_nil alone])
      have next : (index + row.length) % width = 0 := by rw [whole, Nat.add_mod_right, begins]
      have later : index + row.length ≠ 0 := by omega
      have behind := ih next alone
        (fun other member => full other (by
          rw [List.dropLast_cons_of_ne_nil alone]
          exact List.mem_cons_of_mem _ member))
        fun other member => filled other (List.mem_cons_of_mem _ member)
      have joined : rest.map rowText ≠ [] := by simpa using alone
      rw [behind, if_neg later, List.map_cons, List.intercalate_cons_of_ne_nil joined]
      simp

/-- What stands between the first line and the closing line of a dump are its rows. -/
theorem literalsFrom_eq_rowsText (cut : InRows width bytes rows) :
    literalsFrom width 0 bytes ++ (if bytes = [] then [] else ['\n']) = rowsText rows := by
  -- Without rows there is no byte, and no line end either.
  by_cases none : rows = []
  · have gone : bytes = [] := by rw [← cut.whole, none, List.flatten_nil]
    simp [rowsText, none, gone, literalsFrom]
  · have some_ : bytes ≠ [] := by
      obtain ⟨row, rest, rfl⟩ := List.exists_cons_of_ne_nil none
      exact cut.uncons.1
    have written := literalsFrom_rows (Nat.zero_mod width) none cut.full cut.filled
    have newline : "\n".toList = ['\n'] := by decide
    rw [cut.whole, if_pos rfl, List.nil_append] at written
    rw [written, rowsText, if_neg some_, if_neg none, newline]

/-- A dump is written row by row. -/
theorem render_eq_layout (columns : Nat) (label : Path) (cut : InRows (max columns 1) bytes rows) :
    render columns label bytes = layout (arrayName label) rows bytes.length := by
  have body := literalsFrom_eq_rowsText cut
  have closing : "\x7d;\nunsigned int ".toList = "\x7d;\n".toList ++ "unsigned int ".toList := by decide
  unfold render layout
  rw [body, closing]
  simp only [List.append_assoc]

end Text

/-- A dump tells the bytes that it was made of. -/
theorem render_injective (columns : Nat) (label : Path) : Function.Injective (render columns label) := by
  intro bytes bytes' same
  -- What is kept of a dump are the rows and the closing line, and the rows can be read back.
  have kept := interior_render columns label bytes
  rw [same, interior_render] at kept
  have rows := congrArg List.flatten (List.append_cancel_right kept)
  rw [flatten_linesOf, flatten_linesOf] at rows
  have read := readBack?_rows columns bytes
  rw [← rows, readBack?_rows] at read
  exact (Option.some.inj read).symm

/-- A dump has a line for each row, and three around them. -/
theorem length_linesOf_render (columns : Nat) (label : Path) (bytes : List UInt8) :
    (linesOf (Utf8.encode (render columns label bytes))).length =
      (bytes.length + max columns 1 - 1) / max columns 1 + 3 := by
  have kept := Transcript.length_interior (Utf8.encode (render columns label bytes))
  rw [interior_render, List.length_append, length_linesOf_rows, List.length_singleton] at kept
  generalize (bytes.length + max columns 1 - 1) / max columns 1 = count at kept ⊢
  omega

/-- A dump lists the literals row by row, whatever the number of columns is, of which there is one at least. The rows
are the only ones into which the bytes can be cut; other bytes have another dump, and each row is a line of its own. -/
theorem render_by_rows (columns : Nat) (label : Path) :
    (∀ bytes, ∃ rows, (∀ other, InRows (max columns 1) bytes other ↔ other = rows) ∧
      render columns label bytes = layout (arrayName label) rows bytes.length ∧
      (linesOf (Utf8.encode (render columns label bytes))).length =
        (bytes.length + max columns 1 - 1) / max columns 1 + 3) ∧
    Function.Injective (render columns label) := by
  refine ⟨fun bytes => ?_, render_injective columns label⟩
  -- There is one way to cut the bytes into rows, and the text is laid out by it.
  obtain ⟨rows, cut⟩ := @exists_inRows (max columns 1) (Nat.le_max_right columns 1) bytes
  refine ⟨rows, fun other => ⟨fun cut' => cut'.unique cut, ?_⟩, render_eq_layout columns label cut,
    length_linesOf_render columns label bytes⟩
  rintro rfl
  exact cut

end ImageHeader.Literals
