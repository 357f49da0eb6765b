import ImageHeader.Proofs.Config.Validation
import ImageHeader.Proofs.Generator.Success
import ImageHeader.Proofs.Text.Ascii

/-! Layouts: the lines of a header, and when its text falls apart into just these lines. -/

namespace ImageHeader

open FileTree

/-- The byte of a backslash. -/
def backslash : UInt8 := 0x5C

/-- Whether a line runs on into the next one: in source text a backslash before a line end takes both away. -/
def RunsOn (line : Line) : Prop := line.dropLast.getLast? = some backslash

/-- It can be seen whether a line runs on. -/
instance : DecidablePred RunsOn := fun line =>
  inferInstanceAs (Decidable (line.dropLast.getLast? = some backslash))

namespace Header

variable {config : Config} {label text : String} {dump : List UInt8} {line : Line}

/-- A line of a header has a line end inside exactly if its text has one. -/
theorem lineEnd_mem_lineOf : lineEnd ∈ (lineOf text).dropLast ↔ '\n' ∈ text.toList := by
  rw [lineOf, List.dropLast_concat, Utf8.lineEnd_mem_encode]

/-- A line of a header runs on exactly if its text ends in a backslash. -/
theorem runsOn_lineOf : RunsOn (lineOf text) ↔ text.toList.getLast? = some '\\' := by
  -- A backslash is one byte, and no part of another character.
  rw [RunsOn, lineOf, List.dropLast_concat]
  exact @Utf8.getLast?_encode text '\\' (by decide)

/-- Behind a word that ends in no backslash, a line runs on exactly if the rest of its text ends in one. -/
theorem runsOn_lineOf_append {word : String} (plain : word.toList.getLast? ≠ some '\\') :
    RunsOn (lineOf (word ++ text)) ↔ text.toList.getLast? = some '\\' := by
  rw [runsOn_lineOf, String.toList_append, List.getLast?_append]
  -- Without a rest the line ends as the word does.
  cases text.toList.getLast? with
  | none => simpa using plain
  | some last => simp

/-- Every line of a header is ended. -/
theorem getLast?_of_mem_linesAround (member : line ∈ linesAround config label (interior dump)) :
    line.getLast? = some lineEnd := by
  unfold linesAround at member
  -- The kept lines are ended in the dump, and all others are made of their text.
  simp only [List.mem_append, List.mem_singleton] at member
  obtain ((opens | kept) | closing) | rfl := member
  · exact ended_opening config label line opens
  · exact getLast?_of_mem_interior kept
  · split at closing
    · rw [List.mem_singleton.mp closing]
      exact getLast?_lineOf _
    · cases closing
  · exact getLast?_lineOf _

/-- A kept line has no line end inside. -/
theorem lineEnd_notMem_of_mem_interior (member : line ∈ interior dump) : lineEnd ∉ line.dropLast := by
  -- It was cut out at its line end.
  unfold interior at member
  exact lineEnd_notMem_dropLast (List.mem_of_mem_tail (List.dropLast_subset _ member))

/-- An identifier holds no line end, and does not end in a backslash. -/
theorem plain_of_isIdentifier (identifier : isIdentifier text = true) :
    '\n' ∉ text.toList ∧ text.toList.getLast? ≠ some '\\' := by
  -- Neither character may stand in an identifier.
  constructor
  · intro member
    exact absurd (continuesIdentifier_of_mem identifier _ member) (by decide)
  · intro ends
    exact absurd (continuesIdentifier_of_mem identifier _ (List.mem_of_getLast? ends)) (by decide)

/-- The first five lines around a valid configuration have a line end inside only through include, label and element
type. -/
theorem lineEnd_notMem_opening (valid : config.validate = .ok ()) :
    (∀ line ∈ opening config label, lineEnd ∉ line.dropLast) ↔
      '\n' ∉ config.included.toList ∧ '\n' ∉ label.toList ∧ '\n' ∉ config.elementType.toList := by
  -- The check keeps guard and symbol plain; the other three texts it does not look into.
  obtain ⟨guard, symbol, _⟩ := Config.validate_eq_ok.mp valid
  have guard_ := (plain_of_isIdentifier guard).1
  have symbol_ := (plain_of_isIdentifier symbol).1
  simp [opening, lineEnd_mem_lineOf, String.toList_append, guard_, symbol_]

/-- The text of a header around a valid configuration falls apart into its lines exactly if include, label and element
type have no line end of their own. -/
theorem linesOf_around (valid : config.validate = .ok ()) :
    linesOf (around config label (interior dump)) = linesAround config label (interior dump) ↔
      '\n' ∉ config.included.toList ∧ '\n' ∉ label.toList ∧ '\n' ∉ config.elementType.toList := by
  rw [around, linesOf_flatten fun line => getLast?_of_mem_linesAround,
    ← lineEnd_notMem_opening valid]
  refine ⟨fun inside line member => inside line ?_, fun inside line member => ?_⟩
  · simp [linesAround, member]
  · -- All lines but the first five are free of line ends.
    simp only [linesAround, List.mem_append, List.mem_singleton] at member
    obtain ((first | kept) | closing) | rfl := member
    · exact inside line first
    · exact lineEnd_notMem_of_mem_interior kept
    · split at closing
      · rw [List.mem_singleton.mp closing]
        decide
      · cases closing
    · decide

/-- Of the first five lines around a valid configuration none runs on exactly if neither include nor label ends in a
backslash. -/
theorem runsOn_opening (valid : config.validate = .ok ()) :
    (∀ line ∈ opening config label, ¬RunsOn line) ↔
      config.included.toList.getLast? ≠ some '\\' ∧ label.toList.getLast? ≠ some '\\' := by
  obtain ⟨guard, _⟩ := Config.validate_eq_ok.mp valid
  have guard_ := (plain_of_isIdentifier guard).2
  -- The declaration ends in its brace, whatever stands before it.
  have declared : ¬RunsOn (lineOf ("const " ++ config.elementType ++ " " ++ config.symbol ++ "[] = \x7b")) := by
    rw [runsOn_lineOf, String.toList_append, List.getLast?_append]
    simp
  -- What a line ends in is the text behind its first word.
  have ifndef := @runsOn_lineOf_append config.guard "#ifndef " (by decide)
  have define := @runsOn_lineOf_append config.guard "#define " (by decide)
  have include_ := @runsOn_lineOf_append config.included "#include " (by decide)
  have comment := @runsOn_lineOf_append label "// " (by decide)
  simp [opening, ifndef, define, include_, comment, guard_, declared]

end Header

namespace Generator

variable {generator : Generator} {input : Path} {host between after : Host} {opening : Opening}
  {dump : String} {report : Report}

/-- What can be read back of a dump is all of it, unless the intermediate path leads to a device. -/
theorem Opening.held_or_device (opened : generator.opening? input host = some opening) :
    opening.held = Utf8.encode opening.dump ∨
      opening.held = [] ∧ ∃ kind, opening.host.target? generator.intermediatePath = some (.special kind) := by
  obtain ⟨kind, device, nothing, _⟩ | ⟨_, whole, _⟩ := opening.held_cases
  · -- The path leads to what was opened.
    refine .inr ⟨nothing, kind, ?_⟩
    rw [Host.target?, Host.find, find_of_leads? (Opening.leads_place opened) device]
    exact device
  · exact .inl whole

/-- A run that succeeds with a valid configuration writes its header line by line: five lines of its own, the lines kept
of the dump, a closing line where one is missed, and the end of the guard. The text falls apart into these lines exactly
if include, label and element type have no line end of their own, and none of the first five runs on exactly if neither
include nor label ends in a backslash. -/
theorem layout_of_generate_ok (valid : generator.config.validate = .ok ())
    (dumped : generator.dumper.dump host input = (.ok dump, between))
    (done : generator.generate input host = (.ok report, after)) :
    ∃ kept,
      (kept = interior (Utf8.encode dump) ∨
        kept = [] ∧ ∃ kind, between.target? generator.intermediatePath = some (.special kind)) ∧
      after.entryAt? generator.outputPath = some (.file
        (Header.linesAround generator.config (inputLabel input) kept).flatten false) ∧
      (linesOf (Header.linesAround generator.config (inputLabel input) kept).flatten =
          Header.linesAround generator.config (inputLabel input) kept ↔
        '\n' ∉ generator.config.included.toList ∧ '\n' ∉ (inputLabel input).toList ∧
          '\n' ∉ generator.config.elementType.toList) ∧
      ((∀ line ∈ Header.opening generator.config (inputLabel input), ¬RunsOn line) ↔
        generator.config.included.toList.getLast? ≠ some '\\' ∧
          (inputLabel input).toList.getLast? ≠ some '\\') := by
  -- The header is made of what could be read back of the dump.
  obtain ⟨opening, opened, rfl, rfl, written⟩ := header_named_of_generate_ok dumped done
  refine ⟨interior opening.held, ?_, written, Header.linesOf_around valid, Header.runsOn_opening valid⟩
  obtain whole | ⟨nothing, device⟩ := Opening.held_or_device opened
  · exact .inl (by rw [whole])
  · exact .inr ⟨by rw [nothing]; rfl, device⟩

/-- With the default configuration and a plain name for the image a header falls apart into its lines. -/
theorem layout_of_generate_ok_plain :
    threeLines.config.validate = .ok () ∧
      (∃ report after, threeLines.generate ⟨[0x61]⟩ ⟨.empty, [], [], []⟩ = (.ok report, after)) ∧
      ∃ kept, linesOf (Header.linesAround threeLines.config (inputLabel ⟨[0x61]⟩) kept).flatten =
          Header.linesAround threeLines.config (inputLabel ⟨[0x61]⟩) kept ∧
        (threeLines.generate ⟨[0x61]⟩ ⟨.empty, [], [], []⟩).2.entryAt? threeLines.outputPath = some (.file
          (Header.linesAround threeLines.config (inputLabel ⟨[0x61]⟩) kept).flatten false) := by
  have valid : threeLines.config.validate = .ok () := by decide
  -- On an empty tree the run succeeds.
  have done : threeLines.generate ⟨[0x61]⟩ ⟨.empty, [], [], []⟩ =
      (.ok (threeLines.report ⟨[0x61]⟩ "x\n0x01\ny\n"),
        (threeLines.generate ⟨[0x61]⟩ ⟨.empty, [], [], []⟩).2) := by
    rfl
  obtain ⟨kept, _, written, cut, _⟩ := layout_of_generate_ok valid rfl done
  exact ⟨valid, ⟨_, _, done⟩, kept, cut.mpr (by decide), written⟩

/-- The name of an image can break the comment line, and make it run on into the declaration. -/
theorem not_layout_of_name :
    ∃ report after bytes, threeLines.config.validate = .ok () ∧
      threeLines.generate (.ofText "x\ny\\") ⟨.empty, [], [], []⟩ = (.ok report, after) ∧
      after.entryAt? threeLines.outputPath = some (.file bytes false) ∧
      linesOf bytes ≠ Header.linesAround threeLines.config (inputLabel (.ofText "x\ny\\"))
        (interior (Utf8.encode "x\n0x01\ny\n")) ∧
      ∃ line ∈ Header.opening threeLines.config (inputLabel (.ofText "x\ny\\")), RunsOn line := by
  -- The name is copied into the comment as it is.
  refine ⟨_, _, threeLines.header (.ofText "x\ny\\") "x\n0x01\ny\n", by decide, rfl, ?_, ?_, ?_⟩
  · decide +kernel
  · decide +kernel
  · decide +kernel

end Generator

end ImageHeader
