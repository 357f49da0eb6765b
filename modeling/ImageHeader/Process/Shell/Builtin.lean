import ImageHeader.Process.Script.Grammar
import ImageHeader.Process.Shell.Builtin.Assignment
import ImageHeader.Process.Shell.Builtin.Directory
import ImageHeader.Process.Shell.Builtin.Option
import ImageHeader.Process.Shell.Condition
import ImageHeader.Process.Shell.Signal

/-! The commands that are built into the shell, and their names. -/

namespace ImageHeader.Shell

/-- The order in which names that stand for other text are listed. -/
def aliasRank (name : List Char) : Nat :=
  ((name.headD ' ').toNat * 16 + name.foldl (fun total char => total + char.toNat) 0) % 39

/-- Prints a name with the text that it stands for. -/
def printAlias (known : Script.Alias) : Act Unit := printLine (known.1 ++ '=' :: quoted known.2)

/-- Sets names that stand for other text, or shows them. -/
def aliasBuiltin : Builtin := fun _ words => do
  let mut code := 0
  if words.isEmpty then
    let sorted := (← get).aliases.reverse.mergeSort fun first second =>
      decide (aliasRank first.1 ≤ aliasRank second.1)
    for known in sorted do
      printAlias known
  for word in words do
    -- The first character belongs to the name, even an equals sign.
    let (rest, value) := splitAssignment (word.drop 1)
    let name := word.take 1 ++ rest
    let known := (← get).aliases.find? fun known => known.1 = name
    match value, known with
    | some value, _ =>
      modify fun shell =>
        { shell with aliases := (name, value) :: shell.aliases.filter fun known => known.1 ≠ name }
    | none, some known => printAlias known
    | none, none =>
      let _ ← write 2 (chars "alias: " ++ name ++ chars " not found\n")
      code := 1
  return code

/-- Forgets names that stand for other text. -/
def unaliasBuiltin : Builtin := fun _ words => do
  let (options, words) ← options [('a', false)] words
  if !options.isEmpty then
    modify fun shell => { shell with aliases := [] }
    return 0
  let mut code := 0
  for word in words do
    if (← get).aliases.any fun known => known.1 = word then
      modify fun shell =>
        { shell with aliases := shell.aliases.filter fun known => known.1 ≠ word }
    else
      let _ ← write 2 (chars "unalias: " ++ word ++ chars " not found\n")
      code := 1
  return code

/-- Shows or sets the permissions that new files lack. -/
def maskBuiltin : Builtin := fun _ words => do
  let (options, words) ← options [('S', false)] words
  let mask := (← get).mask
  match words with
  | [] =>
    if options.isEmpty then
      let digits := Nat.toDigits 8 mask
      printLine (List.replicate (4 - digits.length) '0' ++ digits)
    else
      let shown (bits : Nat) : List Char :=
        (if bits / 4 % 2 = 0 then ['r'] else []) ++ (if bits / 2 % 2 = 0 then ['w'] else []) ++
          (if bits % 2 = 0 then ['x'] else [])
      printLine (chars "u=" ++ shown (mask / 64) ++ chars ",g=" ++ shown (mask / 8) ++ chars ",o=" ++ shown mask)
    return 0
  | word :: _ =>
    if word.head?.any Char.isDigit then
      if word.all isOctal then
        modify fun shell =>
          { shell with mask := word.foldl (fun total digit => total * 8 + (digit.toNat - '0'.toNat)) 0 % 512 }
      else failNumber word
    return 0

/-- The letters of the limits, with the limits that hold. -/
def limits : List (Char × String) :=
  [('t', "unlimited"), ('f', "unlimited"), ('d', "unlimited"), ('s', "8192"), ('c', "0"), ('m', "unlimited"),
    ('l', "8192"), ('p', "unlimited"), ('n', "1048576"), ('v', "unlimited"), ('w', "unlimited"), ('r', "0")]

/-- Shows the limit of the size of files, or the one whose letter is given; none is changed. -/
def limitBuiltin : Builtin := fun _ words => do
  let (options, words) ← options ((limits.map fun limit => (limit.1, false)) ++ [('H', false), ('S', false)]) words
  let asked := (options.map (·.1)).filter fun letter => letter ≠ 'H' && letter ≠ 'S'
  if words.isEmpty then printLine (chars ((limits.lookup (asked.getLast?.getD 'f')).getD "unlimited"))
  return 0

/-- Shows the times that were used up. -/
def timesBuiltin : Builtin := fun _ _ => do
  printLine (chars "0m0.000000s 0m0.000000s")
  printLine (chars "0m0.000000s 0m0.000000s")
  return 0

/-- Waits for processes in the background, which have all ended. -/
def waitBuiltin : Builtin := fun _ words => do
  let mut code := 0
  for word in words do
    if word.head? = some '%' then fail (chars "No such job: " ++ word)
    let process ← number word
    code := ((← get).jobs.lookup process).getD 127
  return code

/-- Gives up as there is no process to bring to the front or to send to the back. -/
def noJob : Builtin := fun _ words =>
  match words with
  | [] => fail (chars "No current job")
  | word :: _ => fail (chars "No such job: " ++ word)

/-- Leaves loops, or goes on with their next round. -/
def leaveLoops (skipping : Nat → Skipping) : Builtin := fun _ words => do
  let count ←
    match words with
    | [] => pure 1
    | word :: _ => do
      let count ← number word
      if count = 0 then failNumber word
      pure count
  -- Asking for more loops than there are leaves them all.
  let count := min count (← get).loops
  if 0 < count then modify fun shell => { shell with skipping := skipping count }
  return 0

/-- Leaves a function or a script that another one reads. -/
def leaveFunction : Builtin := fun _ words => do
  match words with
  | [] =>
    -- Without a code of its own the last one stands, which a script for a signal must not change.
    modify fun shell => { shell with skipping := .function false }
    return (← get).status
  | word :: _ =>
    let code ← number word
    modify fun shell => { shell with skipping := .function true }
    return code

/-- Ends the shell. -/
def exit : Builtin := fun _ words => do
  if let word :: _ := words then
    let code ← number word
    modify fun shell => { shell with kept := some code }
  -- The code is put aside, since a script may run before the shell is gone.
  throw .leaving

/-- The builtin commands that need no more than the state of the shell. -/
def plainBuiltin? (name : String) : Option Builtin :=
  match name with
  | ":" | "true" => some fun _ _ => return 0
  | "false" => some fun _ _ => return 1
  | "alias" => some aliasBuiltin
  | "bg" | "fg" => some noJob
  | "break" => some (leaveLoops .loops)
  | "cd" | "chdir" => some changeDirectory
  | "continue" => some (leaveLoops .bodies)
  | "echo" => some echo
  | "exit" => some exit
  | "export" => some exportAll
  | "getopts" => some getOptions
  | "jobs" => some fun _ _ => return 0
  | "kill" => some fun _ words => killBuiltin words
  | "local" => some hideAll
  | "printf" => some printf
  | "pwd" => some printDirectory
  | "read" => some read
  | "readonly" => some fixAll
  | "return" => some leaveFunction
  | "set" => some set
  | "shift" => some shift
  | "test" | "[" => some testBuiltin
  | "times" => some timesBuiltin
  | "trap" => some fun _ words => trapBuiltin words
  | "ulimit" => some limitBuiltin
  | "umask" => some maskBuiltin
  | "unalias" => some unaliasBuiltin
  | "unset" => some unset
  | "wait" => some waitBuiltin
  | _ => none

/-- The builtin commands that look for or run others. -/
def runningNames : List String := [".", "command", "eval", "exec", "hash", "type"]

/-- Whether a command of some name is built in. -/
def isBuiltin (name : List Char) : Bool :=
  let text := String.ofList name
  (plainBuiltin? text).isSome || runningNames.contains text

/-- Whether a builtin command keeps its assignments, and ends the shell when it fails. -/
def isSpecial (name : List Char) : Bool := Script.specialNames.contains (String.ofList name)

/-- Whether a builtin command takes words that assign as they are. -/
def takesAssignments (name : List Char) : Bool :=
  ["alias", "export", "local", "readonly"].contains (String.ofList name)

end ImageHeader.Shell
