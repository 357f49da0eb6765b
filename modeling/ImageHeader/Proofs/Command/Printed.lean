import ImageHeader.Proofs.Command.Report
import ImageHeader.Proofs.Json.Unambiguous
import ImageHeader.Proofs.Json.Writing
import ImageHeader.Proofs.Text.Utf8

/-! Printed reports: what a command prints is one object, and decoded it is the report. -/

namespace ImageHeader

open Json (Document Value Writes Tells)

namespace Report

variable {report : Report} {input output digest text : String}

/-- What is written for a truth value stands for it. -/
theorem writes_truth (value : Bool) : Writes (truth value) (.truth value) := by
  intro rest
  cases value with
  | true => exact .yes rest
  | false => exact .no rest

/-- The members of a report in their order, with its paths as text and a number of lines by its digits. -/
def members (report : Report) (input output digest : String) (digits : List Char) :
    List (Option String × Value) :=
  [(some "input", .text (some input)), (some "output", .text (some output)),
    (some "label", .text (some report.label)), (some "converter", .text (some report.converter)),
    (some "body_lines", .number digits), (some "closed", .truth report.closed),
    (some "appended_close", .truth report.appendedClose), (some "sha256", .text (some digest))]

/-- A report that is rendered has paths that are texts, and is rendered as the object of its members. -/
theorem document_of_render? (rendered : report.render? digest = some text) :
    ∃ input output, report.input.text? = some input ∧ report.output.text? = some output ∧
      Document text (.object (report.members input output digest (Nat.toDigits 10 report.bodyLines))) := by
  obtain ⟨input, input_, rendered⟩ := Option.bind_eq_some_iff.mp rendered
  obtain ⟨output, output_, rendered⟩ := Option.bind_eq_some_iff.mp rendered
  cases rendered
  refine ⟨input, output, input_, output_, Json.document_lines (by simp) ?_⟩
  -- Each line is written for the member in its place.
  have tells {name : String} {written : List Char} {value : Value} (writes : Writes written value) :
      Tells (name, written) (some name, value) := ⟨rfl, writes⟩
  exact .cons (tells (Json.writes_text _)) <| .cons (tells (Json.writes_text _)) <|
    .cons (tells (Json.writes_text _)) <| .cons (tells (Json.writes_text _)) <|
    .cons (tells (Json.writes_toString _)) <| .cons (tells (writes_truth _)) <|
    .cons (tells (writes_truth _)) <| .cons (tells (Json.writes_text _)) .nil

end Report

namespace Options

variable {options : Options} {binary : Path} {host : Host} {report : Report}

/-- A command that succeeds presents the report of its run. -/
theorem exists_present_of_run (ran : (options.run binary host).outcome = .ok report) :
    ∃ report' after, options.run binary host = options.present binary report' after := by
  unfold run conclude at ran ⊢
  -- Neither a start that came to nothing nor a run that failed ends in success.
  generalize options.start host = came at ran ⊢
  obtain ⟨_ | generator, inner⟩ := came
  · cases ran
  · dsimp only at ran ⊢
    generalize generator.generate binary inner = ending at ran ⊢
    obtain ⟨_ | report', after⟩ := ending
    · cases ran
    · exact ⟨_, _, rfl⟩

/-- A command that was asked for a report and succeeds has printed one value and a line end. Decoded by the grammar this
value is the object with the members of the report, in their order, with the digest of the image and no others. -/
theorem printed_of_run (asked : options.json = true) (ran : (options.run binary host).outcome = .ok report) :
    ∃ text input output digest digits, (options.run binary host).printed = text ++ "\n" ∧
      report.input.text? = some input ∧ report.output.text? = some output ∧
      Nat.ofDigitChars 10 digits 0 = report.bodyLines ∧ (options.run binary host).host.fileDigest binary = .ok digest ∧
      ∀ value, Document text value ↔ value = .object (report.members input output digest digits) := by
  obtain ⟨report', after, ended⟩ := exists_present_of_run ran
  rw [ended] at ran ⊢
  rw [host_present]
  -- A run that succeeded got past the digest and past the rendering.
  cases hashed : after.fileDigest binary with
  | error error =>
    simp [present, asked, hashed] at ran
  | ok digest =>
    rw [present_eq asked hashed] at ran ⊢
    cases rendered : report'.render? digest with
    | none =>
      rw [rendered] at ran
      cases ran
    | some text =>
      rw [rendered] at ran
      cases ran
      obtain ⟨input, output, input_, output_, document⟩ := Report.document_of_render? rendered
      refine ⟨text, input, output, digest, _, rfl, input_, output_, Nat.ofDigitChars_ten_toDigits, rfl, ?_⟩
      intro value
      -- The text is a document of this value, and a text is a document of one value at most.
      constructor
      · exact fun decoded => document.unique decoded
      · rintro rfl
        exact document

/-- A name with a quote, a backslash, a line break, a control character, and characters of several bytes. -/
def awkwardName : String := "a\"\\\n\x01é\uFFFD😀"

/-- A host with an image of that name. -/
def awkwardHost : Host := ⟨⟨[([Utf8.encode awkwardName], .file [1, 2, 0xFF] false)]⟩, [], [], []⟩

/-- What is printed for this image is decoded with its name as it is. -/
theorem printed_of_run_awkward : ∃ report text digest digits,
    (reporting.run (.ofText awkwardName) awkwardHost).outcome = .ok report ∧ report.label = awkwardName ∧
      (reporting.run (.ofText awkwardName) awkwardHost).printed = text ++ "\n" ∧ Nat.ofDigitChars 10 digits 0 = 2 ∧
      Document text (.object (report.members awkwardName "/mxbl_first_stage_image.h" digest digits)) := by
  have ran : (reporting.run (.ofText awkwardName) awkwardHost).outcome =
      .ok ⟨.ofText awkwardName, .ofText "/mxbl_first_stage_image.h", awkwardName, "builtin", 2, true, false⟩ := by
    decide +kernel
  obtain ⟨text, input, output, digest, digits, whole, input_, output_, number, -, decoded⟩ := printed_of_run rfl ran
  -- Both paths are plain text.
  obtain rfl : input = awkwardName := Option.some.inj (input_.symm.trans (Utf8.decode?_encode _))
  obtain rfl : output = "/mxbl_first_stage_image.h" :=
    Option.some.inj (output_.symm.trans (Utf8.decode?_encode _))
  exact ⟨_, text, digest, digits, ran, rfl, whole, number, (decoded _).mpr rfl⟩

end Options

end ImageHeader
