import ImageHeader.Proofs.Header.Content

/-!
Transcriptions: copying a dump against the lines that it falls apart into.

The lines are described without reading the bytes one after another, and nothing else fits the description. What is
copied of a dump, and what is told of it, is then said by the numbers of its lines alone.
-/

namespace ImageHeader

variable {bytes : List UInt8} {lines : List Line}

/-- Lines that some bytes are cut into, behind each line end. -/
structure CutInto (bytes : List UInt8) (lines : List Line) : Prop where
  /-- Nothing is lost, and nothing moved. -/
  whole : lines.flatten = bytes
  /-- A line stands before another only where it ends. -/
  ended : ∀ line ∈ lines.dropLast, line.getLast? = some lineEnd
  /-- Nothing follows a line end within its line. -/
  inside : ∀ line ∈ lines, lineEnd ∉ line.dropLast
  /-- There is no line that holds nothing. -/
  filled : ∀ line ∈ lines, line ≠ []

/-- No line is empty. -/
theorem ne_nil_of_mem_linesOf {line : Line} (member : line ∈ linesOf bytes) : line ≠ [] := by
  -- The induction is on the bytes; each of them is put into a line, or is one of its own.
  induction bytes generalizing line with
  | nil => simp [linesOf] at member
  | cons byte rest ih =>
    by_cases ends : byte = lineEnd
    · rw [ends, linesOf_lineEnd, List.mem_cons] at member
      obtain rfl | behind := member
      · simp
      · exact ih behind
    · rw [linesOf_cons ends] at member
      cases more : linesOf rest with
      | nil =>
        simp only [more, List.mem_singleton] at member
        simp [member]
      | cons next others =>
        simp only [more, List.mem_cons] at member
        obtain rfl | behind := member
        · simp
        · exact ih (by simp [more, behind])

/-- The lines of some bytes are lines that they are cut into. -/
theorem cutInto_linesOf (bytes : List UInt8) : CutInto bytes (linesOf bytes) where
  whole := flatten_linesOf bytes
  ended _ := getLast?_of_mem_dropLast_linesOf
  inside _ := lineEnd_notMem_dropLast
  filled _ := ne_nil_of_mem_linesOf

/-- There is only one way to cut bytes into lines. -/
theorem CutInto.eq_linesOf (cut : CutInto bytes lines) : lines = linesOf bytes := by
  -- The induction is on the lines; the bytes behind the first one are cut into the others.
  induction lines generalizing bytes with
  | nil => simp [← cut.whole, linesOf]
  | cons line rest ih =>
    have closed : lineEnd ∉ line.dropLast := cut.inside line List.mem_cons_self
    have filled : line ≠ [] := cut.filled line List.mem_cons_self
    have split : bytes = line ++ rest.flatten := by rw [← cut.whole, List.flatten_cons]
    by_cases ends : line.getLast? = some lineEnd
    · obtain ⟨open_, rfl⟩ := List.getLast?_eq_some_iff.mp ends
      have behind : CutInto rest.flatten rest := by
        refine ⟨rfl, fun other member => cut.ended other ?_, fun other member => cut.inside other (by simp [member]),
          fun other member => cut.filled other (by simp [member])⟩
        rw [List.dropLast_cons_of_ne_nil (List.ne_nil_of_mem (List.dropLast_subset _ member))]
        exact List.mem_cons_of_mem _ member
      rw [split, List.append_assoc, List.singleton_append, linesOf_append_lineEnd open_ (by simpa using closed),
        ← ih behind]
    · -- A line that does not end is the last one, and has no line end at all.
      have alone : rest = [] := by
        cases rest with
        | nil => rfl
        | cons next more => exact absurd (cut.ended line (by simp)) ends
      have none : lineEnd ∉ line := by
        intro member
        rw [← List.dropLast_concat_getLast filled, List.mem_append, List.mem_singleton] at member
        obtain within | last := member
        · exact closed within
        · exact ends (by rw [List.getLast?_eq_some_getLast filled, ← last])
      rw [split, alone, List.flatten_nil, List.append_nil, linesOf_open line filled none]

/-- What bytes are cut into are their lines. -/
theorem cutInto_iff : CutInto bytes lines ↔ lines = linesOf bytes :=
  ⟨CutInto.eq_linesOf, fun same => same ▸ cutInto_linesOf bytes⟩

namespace Transcript

/-- A text that is left of another without the line feeds and carriage returns at its end. -/
structure WithoutEnding (whole text : String) : Prop where
  /-- Only those are taken away. -/
  taken : ∃ ending : String, whole = text ++ ending ∧ ∀ char ∈ ending.toList, char = '\n' ∨ char = '\r'
  /-- None of them is left. -/
  rest : ∀ char ∈ text.toList.getLast?, char ≠ '\n' ∧ char ≠ '\r'

/-- The characters that end a line are the line feed and the carriage return. -/
theorem endsLine_iff {char : Char} : endsLine char = true ↔ char = '\n' ∨ char = '\r' := by
  simp [endsLine]

/-- The text of a line is what is left of it without its ending. -/
theorem withoutEnding_lineText (line : Line) : WithoutEnding (Utf8.decodeLossy line) (lineText line) where
  taken := by
    obtain ⟨ending, split, all⟩ := Blank.exists_dropTrailing endsLine (Utf8.decodeLossy line).toList
    refine ⟨String.ofList ending, ?_, fun char member => endsLine_iff.mp (all char (by simpa using member))⟩
    rw [lineText, ← String.ofList_append, ← split, String.ofList_toList]
  rest char last := by
    -- Seen from the end, what is left begins with a character that fails the test.
    rw [lineText, String.toList_ofList, Blank.dropTrailing, List.getLast?_reverse] at last
    have fails := List.head?_dropWhile_not endsLine (Utf8.decodeLossy line).toList.reverse
    rw [Option.mem_def.mp last] at fails
    have other : ¬(char = '\n' ∨ char = '\r') := fun ends => by simp [endsLine_iff.mpr ends] at fails
    exact not_or.mp other

/-- Nothing else is left of it. -/
theorem WithoutEnding.eq_lineText {line : Line} {text : String} (left : WithoutEnding (Utf8.decodeLossy line) text) :
    text = lineText line := by
  obtain ⟨ending, split, all⟩ := left.taken
  -- Seen from the end, the ending is dropped, and the dropping stops at the text.
  have stops : Blank.dropTrailing endsLine text.toList = text.toList := by
    unfold Blank.dropTrailing
    cases chars : text.toList.reverse with
    | nil => rw [List.dropWhile_nil, ← chars, List.reverse_reverse]
    | cons char more =>
      have last : char ∈ text.toList.getLast? := by rw [List.getLast?_eq_head?_reverse, chars]; rfl
      have fails : ¬endsLine char = true := fun ends =>
        (endsLine_iff.mp ends).elim (left.rest char last).1 (left.rest char last).2
      rw [List.dropWhile_cons_of_neg fails, ← chars, List.reverse_reverse]
  have dropped := Blank.dropTrailing_append text.toList fun char member => endsLine_iff.mpr (all char member)
  rw [lineText, split, String.toList_append, dropped, stops, String.ofList_toList]

/-- What is copied of a dump that is cut into some lines, and what is told of it. -/
structure Copied (dump : List UInt8) (lines : List Line) (written : List UInt8) (transcript : Transcript) : Prop where
  /-- The lines from the second to the last but one are copied. -/
  copied : written = ((lines.take (lines.length - 1)).drop 1).flatten
  /-- With fewer than three lines there are none of these. -/
  short : lines.length < 3 → written = []
  /-- The first and the last line are not counted. -/
  count : transcript.lines = lines.length - 2
  /-- No last line is told where none is copied. -/
  absent : transcript.lastLine? = none ↔ lines.length < 3
  /-- Otherwise the text of the last line but one is told. -/
  last : ∀ text, transcript.lastLine? = some text ↔
    3 ≤ lines.length ∧ ∃ line, lines[lines.length - 2]? = some line ∧ WithoutEnding (Utf8.decodeLossy line) text
  /-- Whatever is copied has its line end. -/
  ended : transcript.endsWithLineEnd = decide (3 ≤ lines.length)
  /-- The first line, what is copied, and the last line are the dump. -/
  reassembled : 2 ≤ lines.length → ∃ first last, lines.head? = some first ∧ lines.getLast? = some last ∧
    first ++ written ++ last = dump

/-- The lines that are kept are those between the first and the last. -/
theorem interior_eq (dump : List UInt8) :
    interior dump = ((linesOf dump).take ((linesOf dump).length - 1)).drop 1 := by
  rw [← List.dropLast_eq_take, List.drop_one, interior, List.tail_dropLast]

/-- Two lines are not kept. -/
theorem length_interior (dump : List UInt8) : (interior dump).length = (linesOf dump).length - 2 := by
  rw [interior, List.length_dropLast, List.length_tail, Nat.sub_sub]

/-- The last line that is kept is the last but one of the dump. -/
theorem getLast?_interior {dump : List UInt8} (more : 3 ≤ (linesOf dump).length) :
    (interior dump).getLast? = (linesOf dump)[(linesOf dump).length - 2]? := by
  rw [List.getLast?_eq_getElem?, length_interior, interior_eq, List.getElem?_drop, List.getElem?_take]
  rw [if_pos (by omega)]
  congr 1
  omega

/-- The transcript of the lines that are kept of a dump tells what is to be told. -/
theorem copied_interior (dump : List UInt8) :
    Copied dump (linesOf dump) (interior dump).flatten (ofLines (interior dump)) := by
  have few : interior dump = [] ↔ (linesOf dump).length < 3 := by
    rw [← List.length_eq_zero_iff, length_interior]
    omega
  have told : (ofLines (interior dump)).lastLine? = (interior dump).getLast?.map lineText := rfl
  refine ⟨by rw [interior_eq], fun short => by rw [few.mpr short, List.flatten_nil], length_interior dump, ?absent,
    ?last, ?ended, ?reassembled⟩
  case absent => rw [told, Option.map_eq_none_iff, List.getLast?_eq_none_iff, few]
  case last =>
    intro text
    rw [told, Option.map_eq_some_iff]
    constructor
    · rintro ⟨line, last, rfl⟩
      have more : 3 ≤ (linesOf dump).length := Nat.not_lt.mp fun short => by simp [few.mpr short] at last
      exact ⟨more, line, getLast?_interior more ▸ last, withoutEnding_lineText line⟩
    · rintro ⟨more, line, last, left⟩
      exact ⟨line, getLast?_interior more ▸ last, left.eq_lineText.symm⟩
  case ended =>
    unfold endsWithLineEnd ofLines
    cases last : (interior dump).getLast? with
    | none =>
      have short := few.mp (List.getLast?_eq_none_iff.mp last)
      simpa using short
    | some line =>
      -- The last kept line stands before another one, so it has its line end.
      have ended := getLast?_of_mem_interior (List.mem_of_getLast? last)
      have more : 3 ≤ (linesOf dump).length := Nat.not_lt.mp fun short => by simp [few.mpr short] at last
      simp [ended, more]
  case reassembled =>
    intro two
    unfold interior
    cases lines : linesOf dump with
    | nil => simp [lines] at two
    | cons first rest =>
      -- Behind the first line there is a last one.
      have filled : rest ≠ [] := by
        rintro rfl
        simp [lines] at two
      refine ⟨first, rest.getLast filled, rfl, ?_, ?_⟩
      · rw [List.getLast?_cons_of_ne_nil filled, List.getLast?_eq_some_getLast filled]
      · have parts := congrArg List.flatten (List.dropLast_concat_getLast filled)
        rw [List.flatten_append, List.flatten_singleton] at parts
        rw [List.tail_cons, List.append_assoc, parts, ← List.flatten_cons, ← lines, flatten_linesOf]

/-- A writer that takes everything takes of a dump exactly the lines between the first and the last, whatever it has
taken before; the transcript tells their number, the text of the last of them, and that it ended. The dump falls apart
into lines in just one way. -/
theorem ofSource_copied (dump : List UInt8) (taken : Array UInt8) (refusal : IoError) :
    ∃ lines written transcript sink, (∀ other, CutInto dump other ↔ other = lines) ∧
      ofSource ⟨dump, none⟩ ⟨taken, none, refusal⟩ = (.ok transcript, sink) ∧
      sink.accepted.toList = taken.toList ++ written ∧ Copied dump lines written transcript := by
  refine ⟨linesOf dump, (interior dump).flatten, ofLines (interior dump), _, fun _ => cutInto_iff,
    ofSource_extend rfl dump, Sink.toList_extend _ _, copied_interior dump⟩

end Transcript

end ImageHeader
