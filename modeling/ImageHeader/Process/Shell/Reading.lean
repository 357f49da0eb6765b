import ImageHeader.Process.Script.Grammar
import ImageHeader.Process.Shell.Loop
import ImageHeader.Process.Shell.Lookup
import ImageHeader.Process.Shell.Process

/-! Reading of scripts: the shell runs the commands of a line before it reads the next one. -/

namespace ImageHeader.Shell

open Script (Command Reader)

/-- The first lines of a text. -/
def firstLines : Nat → List Char → List Char
  | 0, _ | _, [] => []
  | count + 1, char :: rest => char :: firstLines (if char = '\n' then count else count + 1) rest

/-- What is shown of a script while it is read. -/
inductive Display where
  | nothing
  /-- Its lines, if a setting asks for them. -/
  | lines
  /-- Its lines, and a prompt for each of them if the shell is interactive. -/
  | prompts
  deriving DecidableEq, Repr

/-- Shows the lines of a script that have been read. -/
def showLines (display : Display) (text : List Char) : Act Unit := do
  if display ≠ .nothing && (← get).has 'v' then
    let _ ← write 2 text

/-- Shows the prompt that a variable holds, a number of times. -/
def showPrompt (display : Display) (name : String) (count : Nat) : Act Unit := do
  let shell ← get
  if display = .prompts && shell.has 'i' then
    let prompt := (shell.valueOf? (chars name)).getD []
    let _ ← write 2 (List.replicate count prompt).flatten

/-- Runs the commands of a script line by line. -/
def runReader (runCommand : Command → Act Nat) (display : Display) : Nat → Reader → Nat → Act Nat
  | 0, _, status => return status
  | lines + 1, reader, status => do
    let shell ← get
    showPrompt display "PS1" 1
    -- Names and documents may have changed since the last line, so the reader is given those of now.
    match Script.readLine { reader with aliases := shell.aliases, documents := shell.documents } with
    | .error flaw =>
      showPrompt display "PS2" (flaw.line - reader.line)
      showLines display (firstLines (flaw.line + 1 - reader.line) reader.rest)
      setLine flaw.line
      fail (chars ("Syntax error: " ++ flaw.text))
    | .ok (command?, reader') =>
      let text := reader.rest.take (reader.rest.length - reader'.rest.length)
      showPrompt display "PS2" (text.count '\n' - 1)
      showLines display text
      modify fun shell => { shell with documents := reader'.documents, reached := reader'.line }
      match command? with
      | none => if reader'.token = .finish then return status else runReader runCommand display lines reader' status
      | some command =>
        -- A line runs before the next one is read, so a fault further on does not hinder it.
        let status ← runCommand command
        if ← goesOn then runReader runCommand display lines reader' status else return status

/-- Runs the text of a script from its first line on. -/
def runLines (runCommand : Command → Act Nat) (display : Display) (text : List Char) : Act Nat := do
  let reached := (← get).reached
  let reader : Reader := { rest := text.filter (· ≠ gap) }
  restoring (runReader runCommand display (text.length + 2) reader 0) fun shell => { shell with reached := reached }

/-- The text of the script that a file holds. -/
def scriptText (path : List Char) : Act (List Char) := do
  let shell ← get
  match shell.tree.find shell.here (pathOf path) with
  | .error error => fail (chars "cannot open " ++ path ++ chars ": " ++ errorText error "No such file")
  -- Something that is there and cannot be read is an empty script.
  | .ok location => return Script.ofBytes (shell.held location)

/-- Runs the text of a script that was read from a file, which a command may leave as it leaves a function. -/
def runScript (runCommand : Command → Act Nat) (display : Display) (text : List Char) : Act Nat := do
  let status ← runLines runCommand display text
  modify fun shell =>
    match shell.skipping with
    | .function _ => { shell with skipping := .nothing }
    | _ => shell
  return status

/-- The file that holds a script, searched unless its name has a slash. -/
def scriptPath (name : List Char) : Act (List Char) := do
  if name.contains '/' then return name
  let shell ← get
  let isThere (path : List Char) : Bool :=
    match shell.tree.read shell.here (pathOf path) with
    | .ok _ => true
    | .error _ => false
  -- Unlike a program, a script need not be marked as one.
  match (shell.searchPath.map fun directory => pathIn directory name).find? isThere with
  | some path => return path
  | none => fail (name ++ chars ": not found")

end ImageHeader.Shell
