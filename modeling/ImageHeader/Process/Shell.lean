import ImageHeader.FileTree.Access
import ImageHeader.Process.ExitStatus
import ImageHeader.Process.Script.Reader

/-! The shell: what it keeps while it runs a script, and how its steps end. -/

namespace ImageHeader

open Script (Command Word)

/-- What an open file reads from and writes to. -/
inductive Channel where
  /-- The standard output of the run. -/
  | output
  /-- The standard error of the run. -/
  | diagnostics
  /-- Characters that are there to be read once. -/
  | supply (rest : List Char)
  /-- A place that collects what is written. -/
  | collection (held : Array UInt8)
  /-- An entry of the tree, and how far it was read or written. -/
  | entry (location : Location) (position : Nat) (appends : Bool)

/-- An open file. -/
structure OpenFile where
  /-- What stands behind it. -/
  channel : Channel
  /-- Whether it can be read. -/
  readable : Bool
  /-- Whether it can be written. -/
  writable : Bool

/-- A variable. -/
structure Variable where
  /-- Its value; a variable without one is not set. -/
  value : Option (List Char)
  /-- Whether programs are given it. -/
  exported : Bool := false
  /-- Whether it keeps its value. -/
  fixed : Bool := false
  deriving DecidableEq, Repr

/-- What is passed over on the way out of loops and functions. -/
inductive Skipping where
  | nothing
  /-- The rest of a number of loops. -/
  | loops (count : Nat)
  /-- The rest of the bodies of a number of loops, the outermost of which goes on. -/
  | bodies (count : Nat)
  /-- The rest of a function, whose exit code may have been given. -/
  | function (withCode : Bool)
  deriving DecidableEq, Repr

/-- Why a run of commands is given up. -/
inductive Raise where
  /-- A complaint that ends the shell unless the command is run on probation. -/
  | failure
  /-- The shell ends with its exit code. -/
  | ending
  /-- The shell ends with the exit code that was asked for. -/
  | leaving
  /-- A signal ends the process. -/
  | killed (signal : Nat)
  deriving DecidableEq, Repr

/-- A shell at work. -/
structure Shell where
  /-- The tree that all processes work on. -/
  tree : FileTree
  /-- The open files of all processes. -/
  files : Array OpenFile := #[]
  /-- What was written to the standard output. -/
  output : Array UInt8 := #[]
  /-- What was written to the standard error. -/
  diagnostics : Array UInt8 := #[]
  /-- The signals that were sent to waiting processes, each with the number of its process, the last first. -/
  mailbox : List (Nat × Nat) := []
  /-- The number of processes that have been started. -/
  started : Nat := 0
  /-- The number of this process. -/
  process : Nat
  /-- The number of the process that reads the script, of which this one may be a copy. -/
  leader : Nat
  /-- The processes that wait for this one, the nearest first. -/
  waiting : List Nat := []
  /-- The numbers of the streams, with their open files. -/
  descriptors : List (Nat × Nat) := []
  /-- The working directory. -/
  here : Location
  /-- The path by which the working directory was reached. -/
  directory : List Char := []
  /-- The permissions that new files lack. -/
  mask : Nat := 0x12
  /-- The name under which the shell complains. -/
  title : List Char
  /-- The arguments of the script or function. -/
  arguments : List (List Char) := []
  /-- The variables by name. -/
  bindings : List (List Char × Variable) := []
  /-- The variables that functions at work have hidden, the innermost function first. -/
  frames : List (List (List Char × Option Variable)) := []
  /-- The functions by name. -/
  functions : List (List Char × Command) := []
  /-- The names that stand for other text. -/
  aliases : List Script.Alias := []
  /-- The documents of the scripts by their numbers. -/
  documents : Array Word := #[]
  /-- The letters of the settings that are on. -/
  settings : List Char := []
  /-- The exit code of the last command. -/
  status : Nat := 0
  /-- The exit code of the last script within a word. -/
  innerStatus : Nat := 0
  /-- What is being passed over. -/
  skipping : Skipping := .nothing
  /-- The number of loops at work. -/
  loops : Nat := 0
  /-- The line of the command at work. -/
  line : Nat := 0
  /-- The line up to which the script was read. -/
  reached : Nat := 0
  /-- The name of the builtin command at work. -/
  command : Option (List Char) := none
  /-- What is done on signals, and, under number zero, at the end. -/
  traps : List (Nat × List Char) := []
  /-- The signals that wait for their commands. -/
  pending : List Nat := []
  /-- The exit code from before a trap, or the one that was asked for. -/
  kept : Option Nat := none
  /-- The place within the arguments that are being searched for options. -/
  optionPlace : Nat × Nat := (1, 0)
  /-- The processes in the background that have ended, with their exit codes. -/
  jobs : List (Nat × Nat) := []
  /-- What the builtin command at work has printed, the last character first. -/
  printed : List Char := []

namespace Shell

/-- A step of a shell. -/
abbrev Act := ExceptT Raise (StateM Shell)

/-- The number of the process that starts the first shell; later processes have greater ones. -/
def starterNumber : Nat := 4710

/-- Whether a setting is on. -/
def has (shell : Shell) (setting : Char) : Bool := shell.settings.contains setting

/-- Text as characters that stand for one byte each. -/
def chars (text : String) : List Char := Script.ofBytes (Utf8.encode text)

end Shell

end ImageHeader
