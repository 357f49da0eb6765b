import ImageHeader.CommandLine
import ImageHeader.Log.Filter

/-! The program: its arguments, what it prints and logs, and its exit status. -/

namespace ImageHeader

/-- The version of the program. -/
def version : String := "0.1.0"

namespace Program

/-- What a run of the program shows. -/
structure Outcome where
  /-- The exit status. -/
  status : Nat
  /-- The standard output. -/
  output : String
  /-- The standard error. -/
  diagnostics : String
  deriving DecidableEq, Repr

/-- The environment variable that holds a log filter. -/
def filterVariable : String := "BIN_TO_HDR_LOG"

/-- The text that explains the arguments. -/
def helpText : String :=
  String.intercalate "\n"
    ["Embed a binary image in a C header",
      "",
      "Usage: bin-to-hdr [OPTIONS] <BINARY>",
      "",
      "Arguments:",
      "  <BINARY>  Path to the binary image",
      "",
      "Options:",
      "      --output <OUTPUT>              Header to write. Defaults to `mxbl_first_stage_image.h`",
      "      --intermediate <INTERMEDIATE>  Transient dump file. Defaults to `temp.h`",
      "      --dir <DIR>                    Directory for relative output/intermediate paths. Defaults to the current directory [default: .]",
      "      --converter <CONVERTER>        Hex dumper to use: `xxd` or `builtin`",
      "      --xxd <XXD>                    Path to the xxd executable (otherwise `XXD_BIN` or `xxd` on PATH)",
      "      --config <CONFIG>              JSON or YAML file with header settings; other flags override it",
      "      --ensure-closed                Append `\x7d;` when the dump interior does not close the array",
      "      --json                         Print a JSON report (including the image's SHA-256) on success",
      "  -v, --verbose...                   Increase log verbosity (repeatable)",
      "  -h, --help                         Print help",
      "  -V, --version                      Print version",
      ""]

/-- The text that names the program and its version. -/
def versionText : String := "bin-to-hdr " ++ version ++ "\n"

/-- What is shown of the arguments that ask for no run. -/
def refuse : CommandLine.Refusal → Outcome
  | .usage error => ⟨1, "", "error: " ++ error.message ++ "\n"⟩
  | .help => ⟨0, helpText, ""⟩
  | .version => ⟨0, versionText, ""⟩

/-- The lines of the events that a filter shows. -/
def logText (filter : Log.Filter) (events : List Log.Event) : String :=
  String.join ((events.filter filter.shows).map Log.Event.line)

/-- Runs a command that was asked for. -/
def runCommand (command : CommandLine) (host : Host) : Outcome × Host :=
  -- The filter decides what is shown and never what is done.
  let filter := Log.Filter.choose (host.environmentValue? filterVariable) command.verbosity
  let result := command.options.run command.binary { host with events := [] }
  match result.outcome with
  | .ok _ => (⟨0, result.printed, logText filter result.host.events⟩, result.host)
  | .error error =>
    -- The failure is the last event, after all that led to it.
    let host := result.host.log (.failed error.chain)
    (⟨1, result.printed, logText filter host.events⟩, host)

/-- Runs the program with its arguments. -/
def run (arguments : List (List UInt8)) (host : Host) : Outcome × Host :=
  match CommandLine.parse arguments with
  -- Arguments that ask for no run leave everything as it is, the log included.
  | .error refusal => (refuse refusal, host)
  | .ok command => runCommand command host

end Program

end ImageHeader
