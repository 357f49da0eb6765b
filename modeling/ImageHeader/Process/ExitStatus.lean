import ImageHeader.Text.Hex

/-! Exit statuses: how a process ended, and how that is told. -/

namespace ImageHeader

/-- A status as the system reports it for a process that was waited for. -/
structure ExitStatus where
  /-- The low seven bits hold a signal, the next bit tells of a core dump, and the next byte is the exit code. -/
  word : UInt32
  deriving DecidableEq, Repr

namespace ExitStatus

/-- The status of a process that exited with a code. -/
def exited (code : Nat) : ExitStatus := ⟨UInt32.ofNat (code % 256 * 256)⟩

/-- The status of a process that a signal ended. -/
def killed (signal : Nat) : ExitStatus := ⟨UInt32.ofNat (signal % 128)⟩

/-- Whether the process exited with code zero. -/
def succeeded (status : ExitStatus) : Bool := status.word == 0

/-- The names of the signals, from number one on. -/
def signalNames : List String :=
  ["HUP", "INT", "QUIT", "ILL", "TRAP", "ABRT", "BUS", "FPE", "KILL", "USR1", "SEGV", "USR2",
    "PIPE", "ALRM", "TERM", "STKFLT", "CHLD", "CONT", "STOP", "TSTP", "TTIN", "TTOU", "URG",
    "XCPU", "XFSZ", "VTALRM", "PROF", "WINCH", "IO", "PWR", "SYS"]

/-- A signal's number, with its name when it has one. -/
def signalText (signal : Nat) : String :=
  match signal with
  | 0 => "0"
  | index + 1 =>
    match signalNames[index]? with
    | some name => toString signal ++ " (SIG" ++ name ++ ")"
    | none => toString signal

/-- The status word as a signed number. -/
def signed (status : ExitStatus) : Int :=
  status.word.toInt32.toInt

/-- How the process ended, in words. -/
def message (status : ExitStatus) : String :=
  let word := status.word.toNat
  let signal := word % 128
  let code := word / 256 % 256
  -- The cases are those of the system's own reading of the word, in its order.
  if signal = 0 then "exit status: " ++ toString code
  else if signal < 127 then
    "signal: " ++ signalText signal ++ (if word / 128 % 2 = 1 then " (core dumped)" else "")
  else if word % 256 = 127 then "stopped (not terminated) by signal: " ++ signalText code
  else if word = 0xFFFF then "continued (WIFCONTINUED)"
  else "unrecognised wait status: " ++ toString status.signed ++ " 0x" ++ Hex.number word

end ExitStatus

end ImageHeader
