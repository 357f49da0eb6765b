import ImageHeader.IoError
import ImageHeader.Path
import ImageHeader.Text.Blank

/-! Configurations: what a header is made of, its defaults, and the check of what ends up in source text. -/

namespace ImageHeader

/-- What to do when a dump does not close the array. -/
inductive ClosingPolicy where
  /-- The dump is copied as it is. -/
  | verbatim
  /-- A closing line is added. -/
  | ensure
  deriving DecidableEq, Repr

/-- The name of a policy in files and messages. -/
def ClosingPolicy.name : ClosingPolicy → String
  | .verbatim => "verbatim"
  | .ensure => "ensure"

/-- The policy with a name. -/
def ClosingPolicy.ofName? (name : String) : Option ClosingPolicy :=
  if name = "verbatim" then some .verbatim
  else if name = "ensure" then some .ensure
  else none

/-- A configuration of a header; each field has a default. -/
structure Config where
  /-- The header to write. -/
  output : Path := .ofText "mxbl_first_stage_image.h"
  /-- The file that holds the dump while the header is written. -/
  intermediate : Path := .ofText "temp.h"
  /-- The include guard. -/
  guard : String := "MXBL_FIRST_STAGE_IMAGE_HEADER_"
  /-- The argument of the include line, with its brackets or quotes. -/
  included : String := "<linux/types.h>"
  /-- The type of the array's elements. -/
  elementType : String := "u8"
  /-- The name of the array. -/
  symbol : String := "mxbl_first_stage_image"
  /-- The name of the converter that makes the dump. -/
  converter : String := "xxd"
  /-- The external converter's program, when it is not to be looked for. -/
  xxdPath : Option Path := none
  /-- What to do when the dump does not close the array. -/
  closing : ClosingPolicy := .verbatim
  deriving DecidableEq, Repr

/-- Whether a character may open an identifier. -/
def opensIdentifier (char : Char) : Bool := char.isAlpha || char = '_'

/-- Whether a character may go on with an identifier. -/
def continuesIdentifier (char : Char) : Bool := char.isAlphanum || char = '_'

/-- Whether a text is an identifier of source text: ASCII letters, digits and underscores, no digit first. -/
def isIdentifier (text : String) : Bool :=
  match text.toList with
  | [] => false
  | first :: rest => opensIdentifier first && rest.all continuesIdentifier

namespace Config

/-- A condition that a configuration violates. -/
inductive Flaw where
  | guard (text : String)
  | symbol (text : String)
  | elementType
  | included
  | pathMissing
  /-- Output and intermediate are one path. -/
  | samePath (output : Path)
  deriving DecidableEq, Repr

/-- The flaw in words. -/
def Flaw.message : Flaw → String
  | .guard text => "guard '" ++ text ++ "' is not a valid C identifier"
  | .symbol text => "symbol '" ++ text ++ "' is not a valid C identifier"
  | .elementType => "element_type is required"
  | .included => "include is required"
  | .pathMissing => "output and intermediate paths are required"
  | .samePath output =>
    "output and intermediate must differ (both are " ++ output.display ++ ")"

/-- The first condition that a configuration violates, if there is one. -/
def flaw? (config : Config) : Option Flaw :=
  -- The tests come in the order in which a user is told: the first that fails is the only one reported.
  if !isIdentifier config.guard then some (.guard config.guard)
  else if !isIdentifier config.symbol then some (.symbol config.symbol)
  -- These two are not held to the grammar of C: they only must not be blank.
  else if Blank.trim config.elementType = "" then some .elementType
  else if Blank.trim config.included = "" then some .included
  else if config.output.isEmpty || config.intermediate.isEmpty then some .pathMissing
  -- No directory is looked at here, so two spellings through a link or a `..` pass and are caught at the run.
  else if config.output.essentialComponents = config.intermediate.essentialComponents then
    some (.samePath config.output)
  else none

end Config

/-- Why no usable configuration was had. -/
inductive ConfigError where
  | unreadable (path : Path) (cause : IoError)
  | unparsable (path : Path) (detail : String)
  | unsupportedFormat (extension : String)
  | invalid (flaw : Config.Flaw)
  deriving DecidableEq, Repr

namespace ConfigError

/-- The error in words. -/
def message : ConfigError → String
  | .unreadable path cause => "Failed to read config at " ++ path.display ++ ": " ++ cause.message
  | .unparsable path detail => "Failed to parse config at " ++ path.display ++ ": " ++ detail
  | .unsupportedFormat extension =>
    "Unsupported config format '" ++ extension ++ "' (expected json, yaml or yml)"
  | .invalid flaw => "Invalid config: " ++ flaw.message

/-- The error and its causes in words, outermost first. -/
def chain (error : ConfigError) : List String :=
  match error with
  -- Only an error of the system carries another one; a parser's detail is part of the message.
  | .unreadable _ cause => [error.message, cause.message]
  | _ => [error.message]

end ConfigError

/-- Checks a configuration before it is used. -/
def Config.validate (config : Config) : Except ConfigError Unit :=
  match config.flaw? with
  | some flaw => .error (.invalid flaw)
  | none => .ok ()

end ImageHeader
