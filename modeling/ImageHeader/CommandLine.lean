import ImageHeader.Command
import ImageHeader.Text.Terminal

/-! The command line: options, flags and the binary among the arguments, and what may be wrong with them. -/

namespace ImageHeader

namespace CommandLine

/-- An option that takes a value. -/
inductive Valued where
  | output
  | intermediate
  | directory
  | converter
  | xxd
  | config
  deriving DecidableEq, Repr

/-- A flag that stands alone. -/
inductive Flag where
  | ensureClosed
  | json
  | verbose
  | help
  | version
  deriving DecidableEq, Repr

/-- The options that take a value. -/
def Valued.all : List Valued := [.output, .intermediate, .directory, .converter, .xxd, .config]

/-- The name of an option. -/
def Valued.name : Valued → String
  | .output => "output"
  | .intermediate => "intermediate"
  | .directory => "dir"
  | .converter => "converter"
  | .xxd => "xxd"
  | .config => "config"

/-- The option as messages show it. -/
def Valued.shown : Valued → String
  | .output => "--output <OUTPUT>"
  | .intermediate => "--intermediate <INTERMEDIATE>"
  | .directory => "--dir <DIR>"
  | .converter => "--converter <CONVERTER>"
  | .xxd => "--xxd <XXD>"
  | .config => "--config <CONFIG>"

/-- Whether the value is a path, which may be any bytes but must not be empty; others must be texts. -/
def Valued.isPath : Valued → Bool
  | .directory | .converter => false
  | _ => true

/-- The flags. -/
def Flag.all : List Flag := [.ensureClosed, .json, .verbose, .help, .version]

/-- The long name of a flag. -/
def Flag.name : Flag → String
  | .ensureClosed => "ensure-closed"
  | .json => "json"
  | .verbose => "verbose"
  | .help => "help"
  | .version => "version"

/-- The flag as messages show it. -/
def Flag.shown : Flag → String
  | .verbose => "--verbose..."
  | flag => "--" ++ flag.name

/-- The flag with a short name. -/
def Flag.ofShort? (char : Char) : Option Flag :=
  match char with
  | 'v' => some .verbose
  | 'h' => some .help
  | 'V' => some .version
  | _ => none

/-- What is wrong with the arguments. -/
inductive UsageError where
  | unexpected (argument : String)
  | valueMissing (shown : String)
  | repeated (shown : String)
  | unexpectedValue (value shown : String)
  | malformedText
  | binaryMissing
  deriving DecidableEq, Repr

/-- The error in words; what was given cannot steer the terminal. -/
def UsageError.message : UsageError → String
  | .unexpected argument => "unexpected argument '" ++ Terminal.plain argument ++ "' found"
  | .valueMissing shown => "a value is required for '" ++ shown ++ "' but none was supplied"
  | .repeated shown => "the argument '" ++ shown ++ "' cannot be used multiple times"
  | .unexpectedValue value shown =>
    "unexpected value '" ++ Terminal.plain value ++ "' for '" ++ shown ++
      "' found; no more were expected"
  | .malformedText => "invalid UTF-8 was detected in one or more arguments"
  | .binaryMissing => "the following required arguments were not provided:"

/-- Why the arguments ask for no run. -/
inductive Refusal where
  | usage (error : UsageError)
  | help
  | version
  deriving DecidableEq, Repr

/-- What waits to be settled: an option with the value it may have been given, or the binary. -/
inductive Pending where
  | option (option : Valued) (value : Option (List UInt8))
  | binary (value : List UInt8)
  deriving DecidableEq, Repr

/-- The arguments that have been read. -/
structure Reading where
  /-- The values of options, newest first. -/
  values : List (Valued × List UInt8) := []
  /-- The flags that were given. -/
  flags : List Flag := []
  /-- The binary. -/
  binary : Option (List UInt8) := none
  /-- Whether a binary was given, settled or not. -/
  binaryTaken : Bool := false
  /-- What waits to be settled. -/
  pending : Option Pending := none
  /-- Whether only the binary may follow. -/
  escaped : Bool := false
  deriving Repr

namespace Reading

/-- Settles an option with its values: there must be one, it must be the first, and it must be usable. -/
def settleOption (reading : Reading) (option : Valued) (value : Option (List UInt8)) :
    Except Refusal Reading :=
  match value with
  | none => .error (.usage (.valueMissing option.shown))
  | some value =>
    -- Repetition outweighs what is wrong with the value.
    if reading.values.any fun pair => pair.1 = option then .error (.usage (.repeated option.shown))
    -- A path may be any bytes, but there must be some.
    else if option.isPath then
      if value = [] then .error (.usage (.valueMissing option.shown))
      else .ok { reading with values := (option, value) :: reading.values }
    else if (Utf8.decode? value).isNone then .error (.usage .malformedText)
    else .ok { reading with values := (option, value) :: reading.values }

/-- Settles what waits. -/
def settle (reading : Reading) : Except Refusal Reading :=
  let reading' := { reading with pending := none }
  match reading.pending with
  | none => .ok reading'
  | some (.option option value) => reading'.settleOption option value
  | some (.binary value) =>
    if value = [] then .error (.usage (.valueMissing "<BINARY>"))
    else .ok { reading' with binary := some value }

/-- Takes a flag. -/
def takeFlag (reading : Reading) (flag : Flag) : Except Refusal Reading :=
  -- An option that still waits is judged first, so its fault is the one reported.
  match reading.settle with
  | .error refusal => .error refusal
  | .ok reading =>
    match flag with
    -- These two end the reading at once: nothing after them is looked at.
    | .help => .error .help
    | .version => .error .version
    -- The only flag that counts how often it is given.
    | .verbose => .ok { reading with flags := flag :: reading.flags }
    | .ensureClosed | .json =>
      if reading.flags.contains flag then .error (.usage (.repeated flag.shown))
      else .ok { reading with flags := flag :: reading.flags }

/-- Takes a long option or flag by name, with a value if one is attached to it. -/
def takeLong (reading : Reading) (name : List UInt8) (attached : Option (List UInt8)) :
    Except Refusal Reading :=
  -- The name alone is shown, without a value that was attached to it.
  let unknown : Refusal := .usage (.unexpected ("--" ++ Utf8.decodeLossy name))
  match Utf8.decode? name with
  | none => .error unknown
  | some text =>
    match Valued.all.find? fun option => option.name = text with
    | some option =>
      match reading.settle with
      | .error refusal => .error refusal
      | .ok reading =>
        match attached with
        -- An attached value is settled at once; otherwise the next argument may be it.
        | some value => reading.settleOption option (some value)
        | none => .ok { reading with pending := some (.option option none) }
    | none =>
      match Flag.all.find? fun flag => flag.name = text with
      | some flag =>
        match attached with
        -- A flag's surplus value is found before what waits is settled.
        | some value => .error (.usage (.unexpectedValue (Utf8.decodeLossy value) flag.shown))
        | none => reading.takeFlag flag
      | none => .error unknown

/-- Takes short flags; `none` stands for bytes that are no text, and ends them. -/
def takeShort (reading : Reading) (rest : List UInt8) : List (Option Char) → Except Refusal Reading
  | [] => .ok reading
  | none :: _ => .error (.usage (.unexpected ("-" ++ Utf8.decodeLossy rest)))
  | some char :: more =>
    match Flag.ofShort? char with
    | none => .error (.usage (.unexpected (String.ofList ['-', char])))
    | some flag =>
      match reading.takeFlag flag with
      | .error refusal => .error refusal
      -- What is left is kept as bytes, for the message about an end that is no text.
      | .ok reading => reading.takeShort (rest.drop char.utf8Size) more

/-- Takes an argument that is no option: the value of the option before it, or the binary. -/
def takePlain (reading : Reading) (argument : List UInt8) : Except Refusal Reading :=
  match reading.escaped, reading.pending with
  -- After the escape nothing is a value, even of an option that waits for one.
  | false, some (.option option none) =>
    .ok { reading with pending := some (.option option (some argument)) }
  | _, _ =>
    -- A second binary is refused before the first is settled.
    if reading.binaryTaken then .error (.usage (.unexpected (Utf8.decodeLossy argument)))
    else
      match reading.settle with
      | .error refusal => .error refusal
      | .ok reading => .ok { reading with pending := some (.binary argument), binaryTaken := true }

/-- The byte that opens options. -/
def hyphen : UInt8 := 0x2D

/-- Takes one argument. -/
def take (reading : Reading) (argument : List UInt8) : Except Refusal Reading :=
  if reading.escaped then reading.takePlain argument
  -- The escape itself settles nothing.
  else if argument = [hyphen, hyphen] then .ok { reading with escaped := true }
  else if [hyphen, hyphen].isPrefixOf argument then
    -- The first equals sign ends the name; any more belong to the value.
    match (argument.drop 2).span (· ≠ 0x3D) with
    | (name, []) => reading.takeLong name none
    | (name, _ :: value) => reading.takeLong name (some value)
  else
    match argument with
    -- A single hyphen is no option but a path of that name.
    | first :: second :: rest =>
      if first = hyphen then reading.takeShort (second :: rest) (Utf8.pieces (second :: rest))
      else reading.takePlain argument
    | _ => reading.takePlain argument

/-- Takes all arguments in order. -/
def takeAll (reading : Reading) : List (List UInt8) → Except Refusal Reading
  -- What still waits at the end gets no value any more.
  | [] => reading.settle
  | argument :: rest =>
    match reading.take argument with
    | .error refusal => .error refusal
    | .ok reading => reading.takeAll rest

/-- The path that was given for an option. -/
def path? (reading : Reading) (option : Valued) : Option Path :=
  (reading.values.lookup option).map Path.mk

/-- The text that was given for an option. -/
def text? (reading : Reading) (option : Valued) : Option String :=
  (reading.values.lookup option).bind Utf8.decode?

/-- The options of the command. -/
def options (reading : Reading) : Options where
  output := reading.path? .output
  intermediate := reading.path? .intermediate
  -- Without an option the base is the directory the program is run in.
  directory := (reading.text? .directory).getD "."
  converter := reading.text? .converter
  xxd := reading.path? .xxd
  config := reading.path? .config
  ensureClosed := reading.flags.contains .ensureClosed
  json := reading.flags.contains .json

end Reading

end CommandLine

/-- A command that was asked for on the command line. -/
structure CommandLine where
  /-- The binary image. -/
  binary : Path
  /-- The options. -/
  options : Options
  /-- How often it was asked to say more. -/
  verbosity : Nat
  deriving Repr

namespace CommandLine

/-- Reads the arguments after the program's name. -/
def parse (arguments : List (List UInt8)) : Except Refusal CommandLine :=
  match ({} : Reading).takeAll arguments with
  | .error refusal => .error refusal
  | .ok reading =>
    match reading.binary with
    | none => .error (.usage .binaryMissing)
    | some binary => .ok ⟨⟨binary⟩, reading.options, reading.flags.count .verbose⟩

end CommandLine

end ImageHeader
