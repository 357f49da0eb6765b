import ImageHeader.Proofs.Dump.Literals
import ImageHeader.Proofs.Generator.Success

/-! Fidelity: a header made from literals holds exactly the bytes of its image. -/

namespace ImageHeader

open FileTree

namespace Generator

variable {generator : Generator} {input : Path} {host after : Host} {report : Report}
  {columns : Nat} {bytes : List UInt8}

/-- The generator with another closing policy. -/
def withClosing (generator : Generator) (policy : ClosingPolicy) : Generator :=
  { generator with config := { generator.config with closing := policy } }

/-- The header around a dump of literals holds their rows and the closing line of the dump. -/
theorem header_render (generator : Generator) (input : Path) (columns : Nat) (bytes : List UInt8) :
    generator.header input (Literals.render columns input bytes) =
      (Header.prologue generator.config ++
          Header.declaration generator.config (inputLabel input)).flatten ++
        Literals.rows columns bytes ++ (Header.arrayEnd :: Header.epilogue).flatten := by
  have closed := Literals.endsClosed_interior_render columns input bytes
  -- The dump closes the array, so nothing is added to it.
  rw [header, Header.around_of_closed _ _ closed, Literals.interior_render]
  simp only [List.flatten_append, flatten_linesOf, List.flatten_cons, List.flatten_nil,
    List.append_nil, List.append_assoc]

/-- The report on a dump of literals tells its rows and the line that closes the array. -/
theorem report_render (generator : Generator) (input : Path) (columns : Nat) (bytes : List UInt8) :
    generator.report input (Literals.render columns input bytes) =
      { input := input
        output := generator.outputPath
        label := inputLabel input
        converter := generator.dumper.name
        bodyLines := (bytes.length + max columns 1 - 1) / max columns 1 + 1
        closed := true
        appendedClose := false } := by
  have closed := Literals.endsClosed_interior_render columns input bytes
  unfold report
  simp only [closed, Bool.not_true, Bool.false_and]
  -- Its kept lines are the rows and the closing line.
  rw [Literals.interior_render, List.length_append, Literals.length_linesOf_rows]
  rfl

/-- Where a dump closes the array itself, the policy makes no difference to what follows. -/
theorem stage_withClosing (policy : ClosingPolicy) {opening : Opening}
    (closed : endsClosed (interior (Utf8.encode opening.dump)) = true) :
    (generator.withClosing policy).stage input opening = generator.stage input opening := by
  -- Header and report are the only parts of a stage that the policy could enter.
  have sameHeader : (generator.withClosing policy).header input opening.dump =
      generator.header input opening.dump := by
    rw [header, header, Header.around_of_closed _ _ closed, Header.around_of_closed _ _ closed]
    rfl
  have sameReport : (generator.withClosing policy).report input opening.dump =
      generator.report input opening.dump := by
    unfold report
    simp only [closed, Bool.not_true, Bool.false_and]
    rfl
  unfold stage
  rw [sameHeader, sameReport]
  rfl

/-- Where a dump closes the array itself, a run ends alike under every policy. -/
theorem generate_withClosing (policy : ClosingPolicy) {opening : Opening}
    (opened : generator.opening? input host = some opening) (regular : opening.Regular)
    (closed : endsClosed (interior (Utf8.encode opening.dump)) = true) :
    ((generator.withClosing policy).generate input host).1 = (generator.generate input host).1 ∧
      ((generator.withClosing policy).generate input host).2.tree =
        (generator.generate input host).2.tree := by
  -- The policy has no part in how a file is opened, and the stage that follows is the same.
  have opened' : (generator.withClosing policy).opening? input host = some opening := opened
  have ends := (generate_ends opened regular).1
  have ends' := (generate_ends opened' regular).1
  rw [stage_withClosing policy closed] at ends'
  exact ends'.unique ends

/-- A header made from literals can be read back: between the opening of the array and its closing line stand the
literals of exactly the bytes of the image, in order; the report tells the rows they take and the closing line of the
dump, and neither header nor report depends on the policy. -/
theorem generate_literals (dumps : generator.dumper = Literals.dumper columns)
    (stored : host.read input = .ok bytes)
    (plain : ∀ kind, host.target? generator.intermediatePath ≠ some (.special kind))
    (done : generator.generate input host = (.ok report, after)) :
    (∃ body, after.entryAt? generator.outputPath = some (.file
        ((Header.prologue generator.config ++
            Header.declaration generator.config (inputLabel input)).flatten ++
          body ++ (Header.arrayEnd :: Header.epilogue).flatten) false) ∧
      Literals.readBack? body = some bytes) ∧
    report.closed = true ∧ report.appendedClose = false ∧
    report.bodyLines = (bytes.length + max columns 1 - 1) / max columns 1 + 1 ∧
    ∀ policy, ((generator.withClosing policy).generate input host).1 = .ok report ∧
      ((generator.withClosing policy).generate input host).2.tree = after.tree := by
  -- The image is read before anything is changed, so the dump is that of its bytes.
  have dumped : generator.dumper.dump host input =
      (.ok (Literals.render columns input bytes), host) := by
    rw [dumps]
    simp only [Literals.dumper, stored]
  obtain ⟨rfl, ⟨spot, named, standing⟩, _⟩ := replaced_of_generate_ok dumped plain done
  -- The body is the rows of the dump.
  refine ⟨⟨Literals.rows columns bytes, ?_, Literals.readBack?_rows columns bytes⟩,
    by rw [report_render], by rw [report_render], by rw [report_render], fun policy => ?_⟩
  · rw [← header_render, Host.entryAt?_of_named? named, standing]
  · obtain ⟨place, opened⟩ := exists_opening_of_ok dumped done
    have regular := Opening.regular_of_target? opened plain
    have alike := generate_withClosing policy opened regular
      (Literals.endsClosed_interior_render columns input bytes)
    rwa [done] at alike

/-- A host that holds an image of three bytes. -/
def imageHost : Host := ⟨⟨[([Utf8.encode "image.bin"], .file [1, 2, 0xFF] false)]⟩, [], [], []⟩

/-- A generator with the default configuration and two literals in a row. -/
def twoColumns : Generator := { config := {}, dumper := Literals.dumper 2 }

/-- Three bytes take two rows, and are read back from them. -/
theorem generate_literals_three :
    twoColumns.dumper = Literals.dumper 2 ∧
      imageHost.read (.ofText "image.bin") = .ok [1, 2, 0xFF] ∧
      (∀ kind, imageHost.target? twoColumns.intermediatePath ≠ some (.special kind)) ∧
      ∃ report after body, twoColumns.generate (.ofText "image.bin") imageHost = (.ok report, after) ∧
        report.bodyLines = 3 ∧ Literals.readBack? body = some [1, 2, 0xFF] ∧
        after.entryAt? twoColumns.outputPath = some (.file
          ((Header.prologue twoColumns.config ++
              Header.declaration twoColumns.config (inputLabel (.ofText "image.bin"))).flatten ++
            body ++ (Header.arrayEnd :: Header.epilogue).flatten) false) := by
  have stored : imageHost.read (.ofText "image.bin") = .ok [1, 2, 0xFF] := by rfl
  have plain : ∀ kind, imageHost.target? twoColumns.intermediatePath ≠ some (.special kind) := by
    intro kind
    cases kind <;> decide
  have done : twoColumns.generate (.ofText "image.bin") imageHost =
      (.ok (twoColumns.report (.ofText "image.bin")
          (Literals.render 2 (.ofText "image.bin") [1, 2, 0xFF])),
        (twoColumns.generate (.ofText "image.bin") imageHost).2) := by
    rfl
  obtain ⟨⟨body, entry, reads⟩, _, _, lines, _⟩ := generate_literals rfl stored plain done
  exact ⟨rfl, stored, plain, _, _, body, done, lines, reads, entry⟩

/-- A host on which the default intermediate path is a link to a device that swallows what is written. -/
def swallowingHost : Host :=
  ⟨⟨[([Utf8.encode "image.bin"], .file [1, 2, 0xFF] false),
    ([Utf8.encode "temp.h"], .link (.ofText "/dev/null")),
    ([Utf8.encode "dev"], .directory),
    ([Utf8.encode "dev", Utf8.encode "null"], .special .null)]⟩, [], [], []⟩

/-- A dump that goes to a device is not read back: the run succeeds with a header that has no literal. -/
theorem not_literals_of_device :
    ∃ report after, twoColumns.generate (.ofText "image.bin") swallowingHost = (.ok report, after) ∧
      swallowingHost.read (.ofText "image.bin") = .ok [1, 2, 0xFF] ∧
      report.closed = false ∧ report.bodyLines = 0 ∧
      after.entryAt? twoColumns.outputPath = some (.file
        ((Header.prologue twoColumns.config ++
            Header.declaration twoColumns.config (inputLabel (.ofText "image.bin")) ++
          Header.epilogue).flatten) false) := by
  -- The run can be followed to its end: the device gives back an empty dump.
  refine ⟨_, _, rfl, rfl, rfl, rfl, ?_⟩
  decide +kernel

end Generator

end ImageHeader
