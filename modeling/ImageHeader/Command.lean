import ImageHeader.Config.Load
import ImageHeader.Digest.Sha256
import ImageHeader.Dump.Registry
import ImageHeader.Generator
import ImageHeader.Json.Text

/-! The command: options laid over a configuration file, a run of the generator, and its report. -/

namespace ImageHeader

/-- What a user asks for; an option that is given wins over the configuration file. -/
structure Options where
  /-- The header. -/
  output : Option Path := none
  /-- The file that holds the dump. -/
  intermediate : Option Path := none
  /-- The directory of relative output and intermediate paths. -/
  directory : String := "."
  /-- The name of the converter. -/
  converter : Option String := none
  /-- The external converter's program. -/
  xxd : Option Path := none
  /-- The configuration file. -/
  config : Option Path := none
  /-- Whether the array is to be closed in any case. -/
  ensureClosed : Bool := false
  /-- Whether a report is to be printed. -/
  json : Bool := false
  deriving DecidableEq, Repr

/-- Why a command failed. -/
inductive CommandError where
  | loading (path : Path) (error : ConfigError)
  | settings (error : ConfigError)
  | directory (cause : IoError)
  | selecting (error : DumpError)
  | generating (binary : Path) (error : GenerateError)
  | opening (binary : Path) (cause : IoError)
  | hashing (binary : Path) (cause : IoError)
  /-- A path in the report is no text. -/
  | reporting
  deriving DecidableEq, Repr

namespace CommandError

/-- The error and its causes in words, outermost first. -/
def chain : CommandError → List String
  | .loading path error => ("Failed to load config " ++ path.display) :: error.chain
  | .settings error => "Invalid header configuration" :: error.chain
  | .directory cause => ["Failed to get current directory", cause.message]
  | .selecting error => "Failed to select converter" :: error.chain
  | .generating binary error => ("Failed to generate header from " ++ binary.display) :: error.chain
  | .opening binary cause =>
    ["Failed to open image for hashing: " ++ binary.display, cause.message]
  | .hashing binary cause =>
    ["Failed to read image for hashing: " ++ binary.display, cause.message]
  | .reporting => ["Failed to serialize report", "path contains invalid UTF-8 characters"]

end CommandError

namespace Options

/-- The configuration with the options laid over it. -/
def override (options : Options) (config : Config) : Config :=
  { config with
    output := options.output.getD config.output
    intermediate := options.intermediate.getD config.intermediate
    converter := options.converter.getD config.converter
    xxdPath := options.xxd.or config.xxdPath
    -- The flag can only demand closing; without it the file decides.
    closing := if options.ensureClosed then .ensure else config.closing }

/-- The configuration of the file, or the default one, under the options; it is checked last. -/
def resolveConfig (options : Options) (host : Host) : Except CommandError Config :=
  let base : Except CommandError Config :=
    match options.config with
    | some path => (Config.load host path).mapError (.loading path)
    | none => .ok {}
  match base with
  | .error error => .error error
  | .ok base =>
    let config := options.override base
    -- A file alone is not checked: an option may still mend it, or spoil it.
    match config.validate with
    | .error error => .error (.settings error)
    | .ok () => .ok config

end Options

/-- The absolute path of a directory: with all links followed if it is there, and as it is spelled otherwise. -/
def Host.absoluteDirectory (host : Host) (directory : String) : Except CommandError Path :=
  match host.currentDirectory with
  | .error cause => .error (.directory cause)
  | .ok current =>
    let requested := current.join (.ofText directory)
    match host.tree.resolve requested with
    | .ok location => .ok (Path.ofLocation location)
    -- The directory may be made later, or its faults show when something is opened below it.
    | .error _ => .ok requested

/-- The SHA-256 of a file's bytes in hexadecimal digits. -/
def Host.fileDigest (host : Host) (path : Path) : Except CommandError String :=
  match host.find path with
  | .error cause => .error (.opening path cause)
  | .ok location =>
    match (host.tree.entryAt location).content with
    | .error cause => .error (.hashing path cause)
    | .ok bytes => .ok (Sha256.hexDigest bytes)

namespace Report

/-- The text of a truth value. -/
def truth (value : Bool) : List Char := (if value then "true" else "false").toList

/-- The report and a digest as JSON over several lines, unless one of its paths is no text. -/
def render? (report : Report) (digest : String) : Option String := do
  let input ← report.input.text?
  let output ← report.output.text?
  let members : List (String × List Char) :=
    [("input", Json.writeText input), ("output", Json.writeText output),
      ("label", Json.writeText report.label), ("converter", Json.writeText report.converter),
      ("body_lines", (toString report.bodyLines).toList), ("closed", truth report.closed),
      ("appended_close", truth report.appendedClose), ("sha256", Json.writeText digest)]
  -- Each member has a line of its own, indented by two.
  let lines := members.map fun (name, value) => "  ".toList ++ Json.writeText name ++ ": ".toList ++ value
  return String.ofList ("\x7b\n".toList ++ ",\n".toList.intercalate lines ++ "\n\x7d".toList)

end Report

/-- What a command printed, how it ended, and the host after it. -/
structure CommandResult where
  /-- The report, or why there is none. -/
  outcome : Except CommandError Report
  /-- What was printed. -/
  printed : String
  /-- The host afterwards. -/
  host : Host

namespace Options

/-- Prints the report of a run, if that was asked for. -/
def present (options : Options) (binary : Path) (report : Report) (host : Host) : CommandResult :=
  if !options.json then ⟨.ok report, "", host⟩
  else
    -- The image is read once more, as the run has left it.
    match host.fileDigest binary with
    | .error error => ⟨.error error, "", host⟩
    | .ok digest =>
      match report.render? digest with
      | none => ⟨.error .reporting, "", host⟩
      | some text => ⟨.ok report, text ++ "\n", host⟩

/-- Comes to the generator that the options ask for, and to the host on which it is to run. -/
def start (options : Options) (host : Host) : Except CommandError Generator × Host :=
  match options.resolveConfig host with
  | .error error => (.error error, host)
  | .ok config =>
    match host.absoluteDirectory options.directory with
    | .error error => (.error error, host)
    | .ok directory =>
      -- What was resolved is told before the converter is looked up, so that it is told of unknown ones, too.
      let host := host.log (.resolved config.converter config.closing.name directory)
      match dumperFor host config with
      | .error error => (.error (.selecting error), host)
      | .ok dumper => (.ok ⟨config, dumper, some directory⟩, host)

/-- Runs the generator that a start has come to, if it came to one, and presents the report. -/
def conclude (options : Options) (binary : Path) : Except CommandError Generator × Host → CommandResult
  | (.error error, host) => ⟨.error error, "", host⟩
  | (.ok generator, host) =>
    match generator.generate binary host with
    | (.error error, host) => ⟨.error (.generating binary error), "", host⟩
    | (.ok report, host) =>
      options.present binary report (host.log (.generated report.output report.bodyLines))

/-- Generates the header of a binary as the options ask. -/
def run (options : Options) (binary : Path) (host : Host) : CommandResult :=
  options.conclude binary (options.start host)

end Options

end ImageHeader
