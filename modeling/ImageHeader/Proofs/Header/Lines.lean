import ImageHeader.Header.Transcript

/-! Lines: what bytes fall apart into at their line ends, and that a source is read line by line. -/

namespace ImageHeader

/-- The lines of some bytes, each with its line end; what follows the last line end is a line if it is not empty. -/
def linesOf : List UInt8 → List Line
  | [] => []
  | byte :: rest =>
    if byte = lineEnd then [byte] :: linesOf rest
    else
      match linesOf rest with
      | [] => [[byte]]
      | line :: lines => (byte :: line) :: lines

/-- Bytes that stop in no open line. -/
def Ended (bytes : List UInt8) : Prop := bytes = [] ∨ bytes.getLast? = some lineEnd

/-- What follows a byte of ended bytes is ended too, if anything does. -/
theorem Ended.of_cons {byte : UInt8} {rest : List UInt8} (ended : Ended (byte :: rest))
    (more : rest ≠ []) : Ended rest := by
  obtain none | last := ended
  · cases none
  · exact .inr (by rwa [List.getLast?_cons_of_ne_nil more] at last)

/-- A line end closes the line before it. -/
@[simp]
theorem linesOf_lineEnd (rest : List UInt8) : linesOf (lineEnd :: rest) = [lineEnd] :: linesOf rest := by
  simp [linesOf]

/-- Any other byte belongs to the line after it. -/
theorem linesOf_cons {byte : UInt8} (inside : byte ≠ lineEnd) (rest : List UInt8) :
    linesOf (byte :: rest) =
      match linesOf rest with
      | [] => [[byte]]
      | line :: lines => (byte :: line) :: lines := by
  rw [linesOf, if_neg inside]

/-- The lines of some bytes are those bytes, cut. -/
@[simp]
theorem flatten_linesOf (bytes : List UInt8) : (linesOf bytes).flatten = bytes := by
  -- A byte either opens a line of its own or is put before the first of the following lines.
  induction bytes with
  | nil => rfl
  | cons byte rest ih =>
    by_cases ends : byte = lineEnd
    · rw [ends, linesOf_lineEnd, List.flatten_cons, ih, List.singleton_append]
    · rw [linesOf_cons ends]
      cases lines : linesOf rest with
      | nil =>
        rw [lines] at ih
        simp [← ih]
      | cons line more =>
        rw [lines] at ih
        simp [← ih]

/-- Only no bytes have no lines. -/
@[simp]
theorem linesOf_eq_nil {bytes : List UInt8} : linesOf bytes = [] ↔ bytes = [] := by
  constructor
  · intro none
    -- Cutting loses nothing.
    rw [← flatten_linesOf bytes, none, List.flatten_nil]
  · rintro rfl
    rfl

/-- The first line goes up to the first line end. -/
theorem linesOf_append_lineEnd (line : List UInt8) (inside : lineEnd ∉ line) (rest : List UInt8) :
    linesOf (line ++ lineEnd :: rest) = (line ++ [lineEnd]) :: linesOf rest := by
  -- The induction is on the line: its bytes go before the line end one after the other.
  induction line with
  | nil => exact linesOf_lineEnd rest
  | cons byte line ih =>
    simp only [List.mem_cons, not_or] at inside
    rw [List.cons_append, linesOf_cons (Ne.symm inside.1), ih inside.2]
    rfl

/-- Bytes without a line end are one line. -/
theorem linesOf_open (line : List UInt8) (some_ : line ≠ []) (inside : lineEnd ∉ line) :
    linesOf line = [line] := by
  -- The induction is on the line: each byte goes before the one line that follows.
  induction line with
  | nil => exact absurd rfl some_
  | cons byte line ih =>
    simp only [List.mem_cons, not_or] at inside
    rw [linesOf_cons (Ne.symm inside.1)]
    cases line with
    | nil => rfl
    | cons next more => rw [ih (by simp) inside.2]

/-- The lines of bytes after bytes that are ended come after the lines of those. -/
theorem linesOf_append {bytes : List UInt8} (ended : Ended bytes) (rest : List UInt8) :
    linesOf (bytes ++ rest) = linesOf bytes ++ linesOf rest := by
  -- The last byte ends a line, so no line goes on from the first part into the second.
  induction bytes with
  | nil => rfl
  | cons byte bytes ih =>
    by_cases ends : byte = lineEnd
    · rw [ends, List.cons_append, linesOf_lineEnd, linesOf_lineEnd, List.cons_append]
      by_cases more : bytes = []
      · simp [more, linesOf]
      · rw [ih (ended.of_cons more)]
    · -- A byte that ends no line is not the last one.
      have more : bytes ≠ [] := by
        rintro rfl
        obtain none | last := ended
        · cases none
        · exact ends (by simpa using last)
      rw [List.cons_append, linesOf_cons ends, linesOf_cons ends, ih (ended.of_cons more)]
      cases lines : linesOf bytes with
      | nil => exact absurd (linesOf_eq_nil.mp lines) more
      | cons line others => rfl

/-- Every line but the last has its line end. -/
theorem getLast?_of_mem_dropLast_linesOf {bytes : List UInt8} {line : Line}
    (member : line ∈ (linesOf bytes).dropLast) : line.getLast? = some lineEnd := by
  -- A line that goes on takes the end of the line behind it; a line end closes a line of its own.
  induction bytes generalizing line with
  | nil => simp [linesOf] at member
  | cons byte rest ih =>
    by_cases ends : byte = lineEnd
    · rw [ends, linesOf_lineEnd] at member
      cases lines : linesOf rest with
      | nil => simp [lines] at member
      | cons next more =>
        rw [lines, List.dropLast_cons_of_ne_nil (by simp), List.mem_cons] at member
        obtain rfl | member := member
        · rfl
        · exact ih (by rwa [lines])
    · rw [linesOf_cons ends] at member
      cases lines : linesOf rest with
      | nil => simp [lines] at member
      | cons next more =>
        simp only [lines] at member
        -- With no line behind it, this one is the last.
        cases more with
        | nil => simp at member
        | cons other others =>
          rw [List.dropLast_cons_of_ne_nil (by simp), List.mem_cons] at member
          obtain rfl | member := member
          · -- The byte is put before a line that has its end.
            have ended : next.getLast? = some lineEnd := ih (by simp [lines])
            cases next with
            | nil => simp at ended
            | cons first word => rwa [List.getLast?_cons_of_ne_nil (by simp)]
          · -- The lines behind are those of the rest.
            refine ih ?_
            rw [lines, List.dropLast_cons_of_ne_nil (by simp)]
            exact List.mem_cons_of_mem _ member

/-- No line has a line end before its last byte. -/
theorem lineEnd_notMem_dropLast {bytes : List UInt8} {line : Line} (member : line ∈ linesOf bytes) :
    lineEnd ∉ line.dropLast := by
  -- A byte that ends no line is put before the first of the following lines.
  induction bytes generalizing line with
  | nil => simp [linesOf] at member
  | cons byte rest ih =>
    by_cases ends : byte = lineEnd
    · rw [ends, linesOf_lineEnd, List.mem_cons] at member
      obtain rfl | member := member
      · simp
      · exact ih member
    · rw [linesOf_cons ends] at member
      cases lines : linesOf rest with
      | nil =>
        simp only [lines, List.mem_singleton] at member
        simp [member]
      | cons next more =>
        simp only [lines, List.mem_cons] at member
        obtain rfl | member := member
        · cases next with
          | nil => simp
          | cons first others =>
            -- The byte is no line end, and the line behind it has none inside.
            have inside : lineEnd ∉ (first :: others).dropLast := ih (by simp [lines])
            simpa [List.dropLast_cons_cons] using ⟨Ne.symm ends, inside⟩
        · exact ih (by simp [lines, member])

/-- Ended lines that are put together fall apart into the same lines exactly if none has a line end inside. -/
theorem linesOf_flatten {lines : List Line} (ended : ∀ line ∈ lines, line.getLast? = some lineEnd) :
    linesOf lines.flatten = lines ↔ ∀ line ∈ lines, lineEnd ∉ line.dropLast := by
  constructor
  · intro same line member
    exact lineEnd_notMem_dropLast (same.symm ▸ member)
  · intro inside
    induction lines with
    | nil => rfl
    | cons line rest ih =>
      obtain ⟨open_, rfl⟩ := List.getLast?_eq_some_iff.mp (ended line List.mem_cons_self)
      have closed : lineEnd ∉ open_ := by simpa using inside _ List.mem_cons_self
      -- The first line goes up to its line end, which is the first one.
      rw [List.flatten_cons, List.append_assoc, List.singleton_append, linesOf_append_lineEnd open_ closed]
      rw [ih (fun other member => ended other (List.mem_cons_of_mem _ member))
        fun other member => inside other (List.mem_cons_of_mem _ member)]

/-- Ended bytes have as many lines as line ends. -/
theorem length_linesOf {bytes : List UInt8} (ended : Ended bytes) :
    (linesOf bytes).length = bytes.count lineEnd := by
  -- Each line end closes one line, and no open line is left.
  induction bytes with
  | nil => rfl
  | cons byte rest ih =>
    by_cases more : rest = []
    · subst more
      obtain none | last := ended
      · cases none
      · simp only [List.getLast?_singleton, Option.some.injEq] at last
        subst last
        rfl
    · have closed := ended.of_cons more
      by_cases ends : byte = lineEnd
      · rw [ends, linesOf_lineEnd, List.length_cons, ih closed, List.count_cons_self]
      · rw [linesOf_cons ends, List.count_cons_of_ne ends, ← ih closed]
        cases lines : linesOf rest with
        | nil => exact absurd (linesOf_eq_nil.mp lines) more
        | cons line others => rfl

/-- Cutting goes on as if the open line stood before the bytes that are left. -/
theorem foldl_cut (bytes open_ : List UInt8) (ended : List Line) (inside : lineEnd ∉ open_)
    {rest : List UInt8} {lines : List Line}
    (cut : bytes.foldl Source.cut (open_, ended) = (rest, lines)) :
    (if rest = [] then lines.reverse else (rest.reverse :: lines).reverse) =
      ended.reverse ++ linesOf (open_.reverse ++ bytes) := by
  -- The induction is on the bytes; a line end moves the open line to the ended ones.
  induction bytes generalizing open_ ended with
  | nil =>
    simp only [List.foldl_nil, Prod.mk.injEq] at cut
    obtain ⟨rfl, rfl⟩ := cut
    -- At the end an open line counts if it holds anything.
    by_cases none : open_ = []
    · simp [none, linesOf]
    · have line := linesOf_open open_.reverse (by simpa using none) (by simpa using inside)
      simp [none, line]
  | cons byte more ih =>
    rw [List.foldl_cons] at cut
    by_cases ends : byte = lineEnd
    · -- The line is ended, and a new one is open.
      subst ends
      simp only [Source.cut, if_true] at cut
      rw [ih [] _ (by simp) cut]
      have first := linesOf_append_lineEnd open_.reverse (by simpa using inside) more
      simp [first]
    · -- The byte goes into the open line.
      simp only [Source.cut, if_neg ends] at cut
      rw [ih (byte :: open_) ended (by simpa using ⟨Ne.symm ends, inside⟩) cut]
      simp

/-- A source that does not fail is read line by line. -/
theorem Source.lines_eq_linesOf (bytes : List UInt8) :
    (⟨bytes, none⟩ : Source).lines = linesOf bytes := by
  rcases cut : bytes.foldl Source.cut ([], []) with ⟨rest, lines⟩
  -- Cutting starts with nothing open and nothing ended.
  have whole := foldl_cut bytes [] [] (by simp) cut
  simpa [Source.lines, cut] using whole

end ImageHeader
