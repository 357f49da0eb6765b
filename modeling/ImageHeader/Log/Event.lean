import ImageHeader.Path

/-! Log events: what a run tells about itself, and the line each event is written as. -/

namespace ImageHeader.Log

/-- How serious an event is, most serious first. -/
inductive Level where
  | error
  | warn
  | info
  | debug
  | trace
  deriving DecidableEq, Repr

/-- The rank of a level; a filter that admits a rank admits all smaller ones. -/
def Level.rank : Level → Nat
  | .error => 1
  | .warn => 2
  | .info => 3
  | .debug => 4
  | .trace => 5

/-- The name of a level, right-aligned in five columns. -/
def Level.column : Level → String
  | .error => "ERROR"
  | .warn => " WARN"
  | .info => " INFO"
  | .debug => "DEBUG"
  | .trace => "TRACE"

/-- Something that happened in a run. -/
inductive Event where
  /-- The settings of a command were merged and accepted. -/
  | resolved (converter closing : String) (directory : Path)
  /-- An external converter is about to be started. -/
  | starting (program input : Path)
  /-- A dump was made and is about to be stored. -/
  | captured (converter : String) (size : Nat) (intermediate : Path)
  /-- A header was written whose array is not closed. -/
  | unclosed (output : Path)
  /-- A header was written and its intermediate file removed. -/
  | written (output : Path) (lines : Nat)
  /-- A command has finished its header. -/
  | generated (output : Path) (lines : Nat)
  /-- A command failed; the texts run from the failure to its first cause. -/
  | failed (chain : List String)
  deriving DecidableEq, Repr

namespace Event

/-- How serious the event is. -/
def level : Event → Level
  | .failed _ => .error
  | .unclosed _ => .warn
  | .generated .. => .info
  | .resolved .. | .starting .. | .captured .. | .written .. => .debug

/-- The part of the program that tells of the event, as filters name it. -/
def target : Event → String
  | .failed _ => "bin_to_hdr"
  | .resolved .. | .generated .. => "bin_to_hdr::commands::generate"
  | .starting .. => "hdrgen_core::services::dumpers::xxd"
  | .captured .. | .unclosed _ | .written .. => "hdrgen_core::services::generator"

/-- What happened, in words. -/
def message : Event → String
  | .resolved .. => "resolved configuration"
  | .starting .. => "running xxd -i"
  | .captured .. => "captured hex dump"
  | .unclosed _ => "array initializer is not closed with `\x7d;` before #endif"
  | .written .. => "header written"
  | .generated .. => "generated header"
  | .failed chain => ": ".intercalate chain

/-- A name between double quotes. -/
def quoted (name : String) : String := "\"" ++ name ++ "\""

/-- The details of the event, as names with their values. -/
def fields : Event → List (String × String)
  | .resolved converter closing directory =>
    [("converter", converter), ("closing", quoted closing), ("dir", directory.display)]
  | .starting program input => [("program", program.display), ("input", input.display)]
  | .captured converter size intermediate =>
    [("converter", quoted converter), ("bytes", toString size),
      ("intermediate", intermediate.display)]
  | .unclosed output => [("output", output.display)]
  | .written output lines | .generated output lines =>
    [("output", output.display), ("lines", toString lines)]
  | .failed _ => []

/-- The characters for a message character: those that steer a terminal are spelled out. -/
def visible (char : Char) : List Char :=
  let code := char.toNat
  if code = 0x1B then "\\x1b".toList
  else if code = 0x07 then "\\x07".toList
  else if code = 0x08 then "\\x08".toList
  else if code = 0x0C then "\\x0c".toList
  else if code = 0x7F then "\\x7f".toList
  -- The second range of controls has no short names.
  else if 0x80 ≤ code ∧ code ≤ 0x9F then
    "\\u\x7b".toList ++ Nat.toDigits 16 code ++ ['\x7d']
  else [char]

/-- The line of the event, with its line end. -/
def line (event : Event) : String :=
  -- Only the message is made visible: paths stand among the details as they are.
  let shown := String.ofList (event.message.toList.flatMap visible)
  let details := String.join (event.fields.map fun (name, value) => " " ++ name ++ "=" ++ value)
  event.level.column ++ " " ++ shown ++ details ++ "\n"

end Event

end ImageHeader.Log
