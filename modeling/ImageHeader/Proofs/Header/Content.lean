import ImageHeader.Header
import ImageHeader.Proofs.Header.Lines
import Mathlib.Data.List.TakeWhile

/-! Contents: the header that is written around a dump, said in one piece. -/

namespace ImageHeader

/-- The lines of a dump but the first and the last. -/
def interior (dump : List UInt8) : List Line := (linesOf dump).tail.dropLast

/-- Whether the last of some lines closes an array, with blanks around it or not. -/
def endsClosed (lines : List Line) : Bool :=
  lines.getLast?.any fun line => closesArray (Utf8.decodeLossy line)

namespace Header

/-- The five lines before the body of an array: guard, include, comment and declaration. -/
def opening (config : Config) (label : String) : List Line :=
  [lineOf ("#ifndef " ++ config.guard),
    lineOf ("#define " ++ config.guard),
    lineOf ("#include " ++ config.included),
    lineOf ("// " ++ label),
    lineOf ("const " ++ config.elementType ++ " " ++ config.symbol ++ "[] = \x7b")]

/-- A line of a header is ended. -/
theorem getLast?_lineOf (text : String) : (lineOf text).getLast? = some lineEnd := by
  rw [lineOf, List.getLast?_concat]

/-- The lines before the body of an array are ended. -/
theorem ended_opening (config : Config) (label : String) :
    ∀ line ∈ opening config label, line.getLast? = some lineEnd := by
  intro line member
  unfold opening at member
  simp only [List.mem_cons, List.not_mem_nil, or_false] at member
  rcases member with rfl | rfl | rfl | rfl | rfl <;> exact getLast?_lineOf _

/-- The lines of a header around the lines that are kept of a dump; a closing line is added where one is asked for and
missing. -/
def linesAround (config : Config) (label : String) (kept : List Line) : List Line :=
  opening config label ++ kept ++
    (if config.closing = .ensure ∧ endsClosed kept = false then [lineOf "\x7d;"] else []) ++
    [lineOf "#endif"]

/-- The header around the lines that are kept of a dump. -/
def around (config : Config) (label : String) (kept : List Line) : List UInt8 :=
  (linesAround config label kept).flatten

/-- The lines before the body are written as prologue and declaration. -/
theorem opening_eq (config : Config) (label : String) :
    opening config label = prologue config ++ declaration config label := rfl

/-- No closing line is added to lines that close the array. -/
theorem around_of_closed (config : Config) (label : String) {kept : List Line}
    (closed : endsClosed kept = true) :
    around config label kept = (prologue config ++ declaration config label ++ kept ++ epilogue).flatten := by
  rw [around, linesAround, closed, if_neg (by simp), List.append_nil, opening_eq]
  rfl

end Header

/-- Every line that is kept of a dump has its line end. -/
theorem getLast?_of_mem_interior {dump : List UInt8} {line : Line}
    (member : line ∈ interior dump) : line.getLast? = some lineEnd := by
  -- Dropping the first line leaves all others but the last among those that are ended.
  refine @getLast?_of_mem_dropLast_linesOf dump line ?_
  unfold interior at member
  rw [← List.tail_dropLast] at member
  exact List.mem_of_mem_tail member

namespace Blank

/-- Characters at the end that satisfy the test are dropped. -/
theorem dropTrailing_append {test : Char → Bool} (chars : List Char) {ending : List Char}
    (all : ∀ char ∈ ending, test char = true) :
    dropTrailing test (chars ++ ending) = dropTrailing test chars := by
  -- Seen from the end, the whole of it is dropped first.
  have gone : ending.reverse.dropWhile test = [] := by
    rw [List.dropWhile_eq_nil_iff]
    simpa using all
  simp [dropTrailing, List.dropWhile_append, gone]

/-- What is dropped at the end satisfies the test. -/
theorem exists_dropTrailing (test : Char → Bool) (chars : List Char) :
    ∃ ending, chars = dropTrailing test chars ++ ending ∧ ∀ char ∈ ending, test char = true := by
  -- Seen from the end, this is the longest run that satisfies the test.
  refine ⟨(chars.reverse.takeWhile test).reverse, ?_, ?_⟩
  · rw [dropTrailing, ← List.reverse_append, List.takeWhile_append_dropWhile, List.reverse_reverse]
  · intro char member
    exact List.mem_takeWhile_imp (List.mem_reverse.mp member)

/-- Trimming does not see what blank characters were dropped at the end before. -/
theorem trimChars_dropTrailing {test : Char → Bool} (chars : List Char)
    (blank : ∀ char, test char = true → isBlank char = true) :
    trimChars (dropTrailing test chars) = trimChars chars := by
  -- What was dropped is blank, so trimming drops it as well, together with what is blank before it.
  obtain ⟨ending, whole, all⟩ := exists_dropTrailing test chars
  have white : ∀ char ∈ ending, isBlank char = true := fun char member => blank char (all char member)
  have split : chars.dropWhile isBlank = (dropTrailing test chars ++ ending).dropWhile isBlank :=
    congrArg (List.dropWhile isBlank) whole
  rw [trimChars, trimChars, split, List.dropWhile_append]
  -- From the front, blanks reach into what was dropped only where nothing else is left.
  by_cases empty : ((dropTrailing test chars).dropWhile isBlank).isEmpty = true
  · have gone : ending.dropWhile isBlank = [] := List.dropWhile_eq_nil_iff.mpr white
    rw [if_pos empty, gone, List.isEmpty_iff.mp empty]
  · rw [if_neg empty, dropTrailing_append _ white]

end Blank

namespace Transcript

/-- The transcript of some lines. -/
def ofLines (lines : List Line) : Transcript := ⟨lines.length, lines.getLast?⟩

/-- A line end is blank. -/
theorem isBlank_of_endsLine {char : Char} (ends : endsLine char = true) :
    Blank.isBlank char = true := by
  simp only [endsLine, Bool.or_eq_true, decide_eq_true_eq] at ends
  rcases ends with rfl | rfl <;> decide

/-- A line closes an array with its line end exactly when it does without. -/
theorem closesArray_lineText (line : Line) :
    closesArray (lineText line) = closesArray (Utf8.decodeLossy line) := by
  -- A line end is blank, and trimming takes it away in any case.
  have chars := Blank.trimChars_dropTrailing (Utf8.decodeLossy line).toList
    (fun _ => isBlank_of_endsLine)
  have same : Blank.trim (lineText line) = Blank.trim (Utf8.decodeLossy line) := by
    rw [Blank.trim, Blank.trim, lineText, String.toList_ofList, chars]
  rw [closesArray, same, closesArray]

/-- A transcript is closed exactly when its lines are. -/
theorem isClosed_ofLines (lines : List Line) : (ofLines lines).isClosed = endsClosed lines := by
  unfold isClosed lastLine? ofLines endsClosed
  -- The transcript judges its last line without the line end.
  cases lines.getLast? <;> simp [closesArray_lineText]

/-- Lines are added one after another. -/
theorem foldl_add (lines before : List Line) :
    lines.foldl add (ofLines before) = ofLines (before ++ lines) := by
  induction lines generalizing before with
  | nil => simp
  | cons line rest ih =>
    -- A transcript holds the count and the last line, and each line adds to both.
    have next : add (ofLines before) line = ofLines (before ++ [line]) := by
      simp [add, ofLines]
    rw [List.foldl_cons, next, ih, List.append_assoc, List.singleton_append]

end Transcript

namespace Sink

/-- The sink after more bytes, where there is room for everything. -/
def extend (sink : Sink) (bytes : List UInt8) : Sink := { sink with accepted := sink.accepted ++ bytes }

/-- What is added to a sink leaves its room as it was. -/
@[simp]
theorem extend_room (sink : Sink) (bytes : List UInt8) : (sink.extend bytes).room = sink.room := rfl

/-- What a sink has taken comes before what is added. -/
@[simp]
theorem toList_extend (sink : Sink) (bytes : List UInt8) :
    (sink.extend bytes).accepted.toList = sink.accepted.toList ++ bytes := by
  simp [extend]

/-- Two additions are one. -/
theorem extend_extend (sink : Sink) (first second : List UInt8) :
    (sink.extend first).extend second = sink.extend (first ++ second) := by
  unfold extend
  congr 1
  apply Array.ext'
  simp

/-- Adding nothing changes nothing. -/
theorem extend_nil (sink : Sink) : sink.extend [] = sink := by
  unfold extend
  simp

variable {sink : Sink}

/-- A sink with room for everything takes everything. -/
theorem write_extend (endless : sink.room = none) (bytes : List UInt8) :
    sink.write bytes = (.ok (), sink.extend bytes) := by
  simp [write, endless, extend]

/-- A sink with room for everything takes all pieces. -/
theorem writeAll_extend (endless : sink.room = none) (pieces : List (List UInt8)) :
    sink.writeAll pieces = (.ok (), sink.extend pieces.flatten) := by
  -- The induction is on the pieces, with whatever was accepted before.
  induction pieces generalizing sink with
  | nil => rw [writeAll, List.flatten_nil, extend_nil]
  | cons piece rest ih =>
    rw [writeAll, write_extend endless]
    have more := @ih (sink.extend piece) endless
    simp only [more, extend_extend, List.flatten_cons]

end Sink

/-- Copying keeps back the last line and takes all before it. -/
theorem Transcript.copy_extend {sink : Sink} (endless : sink.room = none) (transcript : Transcript)
    (held : Option Line) (lines : List Line) :
    copy sink transcript held lines =
      (.ok ((held.toList ++ lines).dropLast.foldl add transcript),
        sink.extend (held.toList ++ lines).dropLast.flatten) := by
  -- The induction is on the lines to come; the held line is the one before them.
  induction lines generalizing sink transcript held with
  | nil => cases held <;> simp [copy, Sink.extend_nil]
  | cons line rest ih =>
    cases held with
    -- The first line that comes is held.
    | none => simpa [copy] using ih endless transcript (some line)
    | some previous =>
      -- The held line is written, since it is not the last.
      rw [copy, Sink.write_extend endless]
      have more := @ih (sink.extend previous) endless
      simp [more, Sink.extend_extend]

/-- Copying a dump keeps all its lines but the first and the last. -/
theorem Transcript.ofSource_extend {sink : Sink} (endless : sink.room = none)
    (dump : List UInt8) :
    ofSource ⟨dump, none⟩ sink = (.ok (ofLines (interior dump)), sink.extend (interior dump).flatten) := by
  have added := foldl_add (interior dump) []
  -- The first line is dropped and the last one kept back.
  rw [ofSource, Source.lines_eq_linesOf, List.drop_one, copy_extend endless]
  simpa [interior, empty, ofLines] using added

namespace Header

variable {config : Config} {label : String} {dump : List UInt8}

/-- A closing line is missing exactly where the lines are not closed and one is asked for. -/
theorem needsArrayEnd_ofLines (kept : List Line) :
    needsArrayEnd config (.ofLines kept) = (!endsClosed kept && config.closing = .ensure) := by
  rw [needsArrayEnd, Transcript.isClosed_ofLines]

/-- After the lines of a dump no line is broken off, so that none has to be ended first. -/
theorem afterTranscript_interior :
    afterTranscript config (.ofLines (interior dump)) =
      (if config.closing = .ensure ∧ endsClosed (interior dump) = false then [arrayEnd] else []) ++
        epilogue := by
  -- The last kept line was followed by another one, so it has its line end.
  have ended : ((Transcript.ofLines (interior dump)).last.isSome &&
      !(Transcript.ofLines (interior dump)).endsWithLineEnd) = false := by
    unfold Transcript.endsWithLineEnd Transcript.ofLines
    cases last : (interior dump).getLast? with
    | none => rfl
    | some line =>
      have member : line ∈ interior dump := List.mem_of_getLast? last
      simp [getLast?_of_mem_interior member]
  unfold afterTranscript
  rw [ended, needsArrayEnd_ofLines]
  cases endsClosed (interior dump) <;> cases config.closing <;> simp

/-- The header around a dump that can be read, where there is room for it. -/
theorem write_unlimited : ∃ sink : Sink,
    write config label ⟨dump, none⟩ .unlimited = (.ok (.ofLines (interior dump)), sink) ∧
      sink.accepted.toList = around config label (interior dump) := by
  -- The sink takes the lines before the dump, the kept lines, and the lines after them.
  have room : Sink.unlimited.room = none := rfl
  refine ⟨(((Sink.unlimited.extend (prologue config ++ declaration config label).flatten).extend
    (interior dump).flatten).extend (afterTranscript config (.ofLines (interior dump))).flatten), ?_, ?_⟩
  · rw [write, Sink.writeAll_extend room]
    simp only [Transcript.ofSource_extend (Sink.extend_room _ _ |>.trans room),
      Sink.writeAll_extend (Sink.extend_room _ _ |>.trans (Sink.extend_room _ _ |>.trans room))]
  · rw [afterTranscript_interior]
    simp [around, linesAround, opening_eq, arrayEnd, epilogue, Sink.unlimited]

end Header

end ImageHeader
