import ImageHeader.Host
import ImageHeader.Process.Shell.Run

/-! Starting programs, and waiting for them. -/

namespace ImageHeader

/-- What a process leaves behind. -/
structure Completion where
  /-- How it ended. -/
  status : ExitStatus
  /-- What it wrote to its standard output. -/
  output : List UInt8
  /-- What it wrote to its standard error. -/
  diagnostics : List UInt8
  deriving Repr

/-- The status that the system reports of a shell that has ended. -/
def ExitStatus.ofEnding : Shell.Ending → ExitStatus
  | .exited code => .exited code
  | .killed signal => .killed signal

namespace Host

/-- Starts a program and waits for it; a name without a slash is searched along `PATH`. -/
def spawn (host : Host) (program : Path) (arguments : List (List UInt8)) :
    Except IoError (Completion × Host) :=
  -- Texts are handed over up to a zero byte, so one inside would cut the text short.
  if (program.bytes :: arguments).any (·.contains 0) then .error .zeroInArgument
  else
    let environment := host.environment.map fun (name, value) => Utf8.encode (name ++ "=") ++ value
    match Executable.start host.tree host.workingDirectory environment (host.environmentValue? "PATH") program.bytes
        arguments with
    | .error error => .error error
    | .ok words =>
      let given := host.environment.map fun (name, value) =>
        (Script.ofBytes (Utf8.encode name), Script.ofBytes value)
      -- Every program that can be started is the shell, whatever its scripts go through to reach it.
      let (ending, shell) :=
        Shell.start host.tree host.workingDirectory given (words.map Script.ofBytes)
      .ok (⟨.ofEnding ending, shell.output.toList, shell.diagnostics.toList⟩, { host with tree := shell.tree })

end Host

end ImageHeader
