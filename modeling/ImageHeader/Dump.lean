import ImageHeader.Host
import ImageHeader.Process.ExitStatus

/-! Dumps: texts that declare an array of a file's bytes, and the dumpers that make them. -/

namespace ImageHeader

/-- Why no dump was made. -/
inductive DumpError where
  | unreadable (input : Path) (cause : IoError)
  | unstartable (program : Path) (cause : IoError)
  /-- The program ended without success, and said something or nothing. -/
  | toolFailed (program : Path) (status : ExitStatus) (diagnostics : String)
  | unknownConverter (name available : String)
  deriving DecidableEq, Repr

namespace DumpError

/-- The error in words. -/
def message : DumpError → String
  | .unreadable input cause => "Failed to read " ++ input.display ++ ": " ++ cause.message
  | .unstartable program cause => "Failed to spawn " ++ program.display ++ ": " ++ cause.message
  | .toolFailed program status diagnostics =>
    program.display ++ " exited with " ++ status.message ++
      (if diagnostics = "" then "" else ": " ++ diagnostics)
  | .unknownConverter name available =>
    "Unknown converter '" ++ name ++ "' (available: " ++ available ++ ")"

/-- The error and its causes in words, outermost first. -/
def chain (error : DumpError) : List String :=
  match error with
  -- The status of a program is part of the message and no cause.
  | .unreadable _ cause | .unstartable _ cause => [error.message, cause.message]
  | _ => [error.message]

end DumpError

/-- A way to make a dump: its first line declares the array, its last line is no part of it. -/
structure Dumper where
  /-- The name under which it is chosen. -/
  name : String
  /-- Makes the dump of the file at a path. -/
  dump : Host → Path → Except DumpError String × Host

end ImageHeader
