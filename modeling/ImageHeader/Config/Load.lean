import ImageHeader.Config.Json
import ImageHeader.Config.Yaml
import ImageHeader.Host

/-! Loading a configuration file, whose extension tells its format. -/

namespace ImageHeader.Config

/-- A format of configuration files. -/
inductive Format where
  | json
  | yaml
  deriving DecidableEq, Repr

/-- The format for an extension. -/
def Format.ofExtension? (extension : String) : Option Format :=
  -- Letters count as they stand: `JSON` is no known extension.
  if extension = "json" then some .json
  else if extension = "yaml" ∨ extension = "yml" then some .yaml
  else none

/-- The extension of a path as a text; one that is no text counts as none. -/
def extensionOf (path : Path) : String :=
  (path.extension?.bind Utf8.decode?).getD ""

/-- Reads a configuration from a text, or tells why it is none. -/
def parse (format : Format) (text : String) : Except String Config :=
  match format with
  | .json => (ofJson text).mapError Json.Fault.message
  | .yaml =>
    match ofYaml? text with
    | some config => .ok config
    -- The reader of YAML keeps no account of where it stopped, so the detail is a fixed word.
    | none => .error "<yaml>"

/-- Loads a configuration file. -/
def load (host : Host) (path : Path) : Except ConfigError Config :=
  match Format.ofExtension? (extensionOf path) with
  -- The extension is judged first: a file of an unknown format is not even opened.
  | none => .error (.unsupportedFormat (extensionOf path))
  | some format =>
    match host.readText path with
    | .error cause => .error (.unreadable path cause)
    | .ok text => (parse format text).mapError (.unparsable path)

end ImageHeader.Config
