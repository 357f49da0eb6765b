import ImageHeader.Proofs.Command.Start
import ImageHeader.Proofs.Generator.Image

/-! Reports: what a command prints after a run that succeeds, and what the digest in it stands for. -/

namespace ImageHeader

open FileTree

namespace Hex

/-- The sixteen digits, in lower case. -/
def lowerDigits : List Char := "0123456789abcdef".toList

/-- A value below sixteen has one of the sixteen digits. -/
theorem digit_mem {value : Nat} (small : value < 16) : digit value ∈ lowerDigits := by
  have each : ∀ value ∈ List.range 16, digit value ∈ lowerDigits := by decide
  exact each value (List.mem_range.mpr small)

/-- Every character for a byte string is one of the sixteen digits. -/
theorem mem_bytes {bytes_ : List UInt8} {char : Char} (member : char ∈ (bytes bytes_).toList) :
    char ∈ lowerDigits := by
  rw [bytes, String.toList_ofList, List.mem_flatMap] at member
  obtain ⟨byte_, _, inside⟩ := member
  have bound : byte_.toNat < 256 := byte_.toNat_lt_size
  -- Both halves of a byte are below sixteen.
  rw [byte, List.mem_cons, List.mem_singleton] at inside
  obtain rfl | rfl := inside
  · exact digit_mem (by omega)
  · exact digit_mem (by omega)

end Hex

/-- Digits are written as they are. -/
theorem Json.writeText_of_digits {text : String} (digits : ∀ char ∈ text.toList, char ∈ Hex.lowerDigits) :
    writeText text = '"' :: text.toList ++ ['"'] := by
  have each : ∀ char ∈ Hex.lowerDigits, writeChar char = [char] := by
    have all : (Hex.lowerDigits.all fun char => writeChar char = [char]) = true := by decide
    simpa using List.all_eq_true.mp all
  rw [writeText]
  generalize text.toList = chars at digits
  -- None of them is a mark that has to be written otherwise.
  have plain : chars.flatMap writeChar = chars := by
    induction chars with
    | nil => rfl
    | cons char rest ih =>
      rw [List.flatMap_cons, each char (digits char List.mem_cons_self),
        ih fun other member => digits other (List.mem_cons_of_mem _ member), List.singleton_append]
  rw [plain]

/-- Between separators the last of several pieces comes last. -/
theorem exists_intercalate {separator last : List Char} {pieces : List (List Char)}
    (more : 1 < pieces.length) (ends : pieces.getLast? = some last) :
    ∃ before, separator.intercalate pieces = before ++ separator ++ last := by
  -- The induction is on the pieces; only the last two of them are a case of their own.
  induction pieces with
  | nil => simp at more
  | cons piece rest ih =>
    cases rest with
    | nil => simp at more
    | cons next others =>
      rw [List.getLast?_cons_cons] at ends
      rw [List.intercalate_cons_cons]
      by_cases two : others = []
      · subst two
        obtain rfl : next = last := by simpa using ends
        exact ⟨piece, by simp⟩
      · -- With more than two pieces the first one is part of what comes before.
        have longer : 1 < (next :: others).length := by
          have some_ := List.length_pos_iff.mpr two
          simpa using some_
        obtain ⟨before, whole⟩ := ih longer ends
        exact ⟨piece ++ separator ++ before, by simp [whole]⟩

/-- A report can be rendered exactly if both of its paths are text, and then ends with its digest. -/
theorem Report.render?_eq {report : Report} {digest : String}
    (digits : ∀ char ∈ digest.toList, char ∈ Hex.lowerDigits) :
    (∀ input output, report.input.text? = some input → report.output.text? = some output →
      ∃ before, report.render? digest = some
        (before ++ ",\n  \"sha256\": \"" ++ digest ++ "\"\n\x7d")) ∧
    (report.input.text? = none ∨ report.output.text? = none → report.render? digest = none) := by
  constructor
  · intro input output first second
    rw [render?, first, second]
    simp only [Option.bind_eq_bind, Option.bind_some]
    generalize members : List.map _ _ = lines
    -- The digest is the last of the members.
    have last : lines.getLast? =
        some ("  ".toList ++ Json.writeText "sha256" ++ ": ".toList ++ Json.writeText digest) := by
      rw [← members]
      rfl
    have more : 1 < lines.length := by
      rw [← members]
      simp
    obtain ⟨before, whole⟩ := @exists_intercalate ",\n".toList _ lines more last
    refine ⟨String.ofList ("\x7b\n".toList ++ before), ?_⟩
    have name : Json.writeText "sha256" = "\"sha256\"".toList := by decide
    rw [whole, Json.writeText_of_digits digits, name]
    refine congrArg some (String.toList_injective ?_)
    simp
  · -- A path that is no text stops the rendering, whichever of the two it is.
    rintro (none | none)
    · rw [render?, none]
      rfl
    · rw [render?, none]
      cases report.input.text? <;> rfl

/-- The digest of a path is that of what it shows. -/
theorem Host.fileDigest_of_shows {host : Host} {path : Path} {place : Location} {entry : Entry}
    {bytes : List UInt8} (shows_ : host.tree.Shows host.workingDirectory path place entry)
    (content : entry.content = .ok bytes) : host.fileDigest path = .ok (Sha256.hexDigest bytes) := by
  rw [fileDigest, find, shows_.found]
  simp only [entryAt_of_lookup shows_.standing, content]

/-- A run of the converter of literals that succeeds with paths that keep clear of its image leaves the image in view,
and unless it opened a device its header holds the literals of exactly the bytes of the image. -/
theorem Generator.literals_of_apart {generator : Generator} {input : Path} {host after : Host}
    {image : Location} {entry : Entry} {bytes : List UInt8} {report : Report} {columns : Nat}
    (dumps : generator.dumper = Literals.dumper columns)
    (shown : host.tree.Shows host.workingDirectory input image entry)
    (solid : ∀ target, entry ≠ .link target) (content : entry.content = .ok bytes)
    (apart : generator.Apart input host image entry)
    (done : generator.generate input host = (.ok report, after)) :
    after.tree.Shows after.workingDirectory input image entry ∧
      ((∀ kind, host.target? generator.intermediatePath ≠ some (.special kind)) →
        ∃ body, after.entryAt? generator.outputPath = some (.file
            ((Header.prologue generator.config ++
                Header.declaration generator.config (inputLabel input)).flatten ++
              body ++ (Header.arrayEnd :: Header.epilogue).flatten) false) ∧
          Literals.readBack? body = some bytes) := by
  -- The dump shows the image as it is before the run.
  have dumped : generator.dumper.dump host input = (.ok (Literals.render columns input bytes), host) := by
    have read_ : host.read input = .ok bytes := by rw [Host.read, shown.read_eq, content]
    rw [dumps]
    simp only [Literals.dumper, read_]
  have reads : generator.dumper.ReadOnly := dumps ▸ Literals.readOnly columns
  obtain ⟨place, opened⟩ := exists_opening_of_ok dumped done
  have left := shows_of_apart reads shown solid apart opened
  rw [done] at left
  refine ⟨left, fun plain => ⟨Literals.rows columns bytes, ?_, Literals.readBack?_rows columns bytes⟩⟩
  obtain ⟨_, ⟨spot, named, standing⟩, _⟩ := replaced_of_generate_ok dumped plain done
  rw [← header_render, Host.entryAt?_of_named? named, standing]

namespace Options

variable {options : Options} {binary : Path} {host inner after : Host} {generator : Generator}
  {image : Location} {entry : Entry} {bytes : List UInt8} {report : Report}

/-- Presenting a report changes nothing. -/
theorem host_present (options : Options) (binary : Path) (report : Report) (host : Host) :
    (options.present binary report host).host = host := by
  unfold present
  -- Whichever way it ends, the host is given back as it was.
  split
  · rfl
  · split
    · rfl
    · split <;> rfl

/-- Where a report is asked for and the image can be read, it is presented with the digest if it can be rendered. -/
theorem present_eq (asked : options.json = true) {digest : String}
    (hashed : host.fileDigest binary = .ok digest) :
    options.present binary report host =
      match report.render? digest with
      | none => ⟨.error .reporting, "", host⟩
      | some text => ⟨.ok report, text ++ "\n", host⟩ := by
  rw [present, hashed, asked]
  rfl

/-- Once a run of the converter of literals has succeeded with paths that keep clear of its image, the header holds the
literals of exactly the bytes of the image, unless the dump went to a device. If both paths of the report are text the
command succeeds as well, and prints the report with the digest of these bytes in lower-case hexadecimal digits;
otherwise it prints nothing and tells that a path is no text. -/
theorem report_of_started (asked : options.json = true)
    (started : options.started? host = some (generator, inner))
    (builtin : generator.config.converter = "builtin")
    (shown : host.tree.Shows host.workingDirectory binary image entry)
    (solid : ∀ target, entry ≠ .link target) (content : entry.content = .ok bytes)
    (apart : generator.Apart binary host image entry)
    (done : generator.generate binary inner = (.ok report, after)) :
    ((∀ kind, host.target? generator.intermediatePath ≠ some (.special kind)) →
      ∃ body, (options.run binary host).host.entryAt? generator.outputPath = some (.file
          ((Header.prologue generator.config ++
              Header.declaration generator.config (inputLabel binary)).flatten ++
            body ++ (Header.arrayEnd :: Header.epilogue).flatten) false) ∧
        Literals.readBack? body = some bytes) ∧
    (∀ input output, binary.text? = some input → generator.outputPath.text? = some output →
      (options.run binary host).outcome = .ok report ∧
        (∀ char ∈ (Sha256.hexDigest bytes).toList, char ∈ Hex.lowerDigits) ∧
        ∃ text before, report.render? (Sha256.hexDigest bytes) = some text ∧
          text = before ++ ",\n  \"sha256\": \"" ++ Sha256.hexDigest bytes ++ "\"\n\x7d" ∧
          (options.run binary host).printed = text ++ "\n") ∧
    (binary.text? = none ∨ generator.outputPath.text? = none →
      (options.run binary host).outcome = .error .reporting ∧ (options.run binary host).printed = "") := by
  obtain ⟨directory, _, _, _, chosen, rfl⟩ := started?_eq_some started
  have dumper : generator.dumper = Literals.dumper Literals.defaultColumns := by
    rw [dumperFor_builtin builtin] at chosen
    exact (Except.ok.inj chosen).symm
  -- What was logged so far is not seen in the tree.
  obtain ⟨left, written⟩ := @Generator.literals_of_apart generator binary (host.log _) _ _ _ _ _ _ dumper
    shown solid content ⟨apart.unstored, apart.unremoved⟩ done
  obtain ⟨input_, output_⟩ := Generator.report_paths_of_ok done
  have hashed : (after.log (.generated report.output report.bodyLines)).fileDigest binary =
      .ok (Sha256.hexDigest bytes) := Host.fileDigest_of_shows left content
  have digits : ∀ char ∈ (Sha256.hexDigest bytes).toList, char ∈ Hex.lowerDigits :=
    fun _ => Hex.mem_bytes
  obtain ⟨rendered, unrendered⟩ := @Report.render?_eq report _ digits
  rw [input_, output_] at rendered unrendered
  rw [(run_of_started started).2 report after done]
  simp only [host_present]
  refine ⟨written, fun input output first second => ?_, fun none => ?_⟩
  · obtain ⟨before, text⟩ := rendered input output first second
    refine ⟨?_, digits, _, before, text, rfl, ?_⟩
    · rw [present_eq asked hashed, text]
    · rw [present_eq asked hashed, text]
  · rw [present_eq asked hashed, unrendered none]
    exact ⟨rfl, rfl⟩

/-- Options that ask for a report on a run of the converter of literals. -/
def reporting : Options := { converter := some "builtin", json := true }

/-- The generator of a command in the root directory, with the converter of literals and an intermediate path. -/
def rootGenerator (intermediate : Path) : Generator where
  config := { intermediate := intermediate, converter := "builtin" }
  dumper := Literals.dumper Literals.defaultColumns
  baseDirectory := some (Path.ofLocation [])

/-- The host with an image, once a command was started on it. -/
def startedHost : Host :=
  Generator.imageHost.log (.resolved "builtin" ClosingPolicy.verbatim.name (Path.ofLocation []))

/-- With the default paths a command prints the report with the digest of its image. -/
theorem report_of_started_default :
    ∃ report after, reporting.started? Generator.imageHost =
        some (rootGenerator (.ofText "temp.h"), startedHost) ∧
      (rootGenerator (.ofText "temp.h")).generate (.ofText "image.bin") startedHost = (.ok report, after) ∧
      (reporting.run (.ofText "image.bin") Generator.imageHost).outcome = .ok report ∧
      ∃ text before, text = before ++ ",\n  \"sha256\": \"" ++ Sha256.hexDigest [1, 2, 0xFF] ++ "\"\n\x7d" ∧
        (reporting.run (.ofText "image.bin") Generator.imageHost).printed = text ++ "\n" := by
  have started : reporting.started? Generator.imageHost =
      some (rootGenerator (.ofText "temp.h"), startedHost) := by
    rfl
  obtain ⟨report, after, done⟩ : ∃ report after,
      (rootGenerator (.ofText "temp.h")).generate (.ofText "image.bin") startedHost = (.ok report, after) :=
    ⟨_, _, rfl⟩
  have shown : Generator.imageHost.tree.Shows Generator.imageHost.workingDirectory (.ofText "image.bin")
      [Utf8.encode "image.bin"] (.file [1, 2, 0xFF] false) := ⟨by decide, by decide⟩
  have apart : (rootGenerator (.ofText "temp.h")).Apart (.ofText "image.bin") Generator.imageHost
      [Utf8.encode "image.bin"] (.file [1, 2, 0xFF] false) := ⟨by decide, by decide, by decide⟩
  have builtin := converter_of_started (show reporting.converter = some "builtin" from rfl) started
  obtain ⟨_, printed, _⟩ := report_of_started rfl started builtin shown (by simp) rfl apart done
  -- Both paths are plain text.
  obtain ⟨outcome, _, text, before, _, shape, whole⟩ :=
    printed "image.bin" "/mxbl_first_stage_image.h" (by decide) (by decide)
  exact ⟨report, after, started, done, outcome, text, before, shape, whole⟩

/-- Options that hold the dump under the name of the image. -/
def consuming : Options := { reporting with intermediate := some (.ofText "image.bin") }

/-- A command can fail though its run has succeeded: when the dump took the place of the image, nothing is left to be
hashed. -/
theorem not_report_of_consumed :
    consuming.json = true ∧ consuming.converter = some "builtin" ∧
      ∃ report after, consuming.started? Generator.imageHost =
          some (rootGenerator (.ofText "image.bin"), startedHost) ∧
        (rootGenerator (.ofText "image.bin")).generate (.ofText "image.bin") startedHost =
          (.ok report, after) ∧
        (consuming.run (.ofText "image.bin") Generator.imageHost).outcome =
          .error (.opening (.ofText "image.bin") .notFound) ∧
        (consuming.run (.ofText "image.bin") Generator.imageHost).printed = "" := by
  refine ⟨rfl, rfl, _, _, rfl, rfl, ?_, ?_⟩
  · decide +kernel
  · decide +kernel

end Options

end ImageHeader
