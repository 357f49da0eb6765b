import ImageHeader.Process.Shell.Reading

/-! Starts of shells: the file and the words that a process is given, and the shell that it then holds. -/

namespace ImageHeader.Shell

open Script (Command)

/-- The arguments that reach a shell when the file at a path is run; a file that is no program is taken for a script. -/
def prepare (shell : Shell) (words : List (List Char)) (path : List Char) :
    Except IoError (List (List UInt8)) :=
  let environment := shell.environment.map fun (name, value) => Script.toBytes (name ++ '=' :: value)
  let load (words : List (List Char)) (path : List Char) : Except IoError (List (List UInt8)) :=
    Executable.prepare shell.tree shell.here environment (words.map Script.toBytes) (Script.toBytes path)
  match load words path with
  | .ok arguments => .ok arguments
  | .error error =>
    let interpreter := chars "/bin/sh"
    -- A file of commands may have no first line that names the shell.
    if error = .notExecutable then load (interpreter :: path :: words.tail) interpreter else .error error

/-- The arguments that reach a shell when one of some paths is run. -/
def prepareAny (shell : Shell) (words : List (List Char)) :
    IoError → List (List Char) → Except IoError (List (List UInt8))
  | failure, [] => .error failure
  | failure, path :: rest =>
    match prepare shell words path with
    | .ok arguments => .ok arguments
    | .error error =>
      -- One that is denied or broken is remembered over those that are missing.
      let missing := error = .notFound ∨ error = .notDirectory
      prepareAny shell words (if missing then failure else error) rest

/-- The exit code of a shell whose program cannot be run. -/
def faultCode (error : IoError) : Nat :=
  if [.notFound, .notDirectory, .nameTooLong, .tooManyLinks].contains error then 127 else 126

/-- The variables of a shell at its start, among them those of its environment. -/
def startingVariables (here : Location) (isThere : Bool) (starter : Nat)
    (environment : List (List Char × List Char)) : List (List Char × Variable) :=
  let given := environment.filter fun pair => Script.isName pair.1
  let own : List (List Char × List Char) :=
    [("IFS", " \t\n"), ("OPTIND", "1"), ("PPID", toString starter), ("PS1", "# "), ("PS2", "> "),
      ("PS4", "+ ")].map fun (name, value) => (chars name, chars value)
  let path := chars "PATH"
  let standard := if given.any fun pair => pair.1 = path then [] else
    [(path, [':'].intercalate standardDirectories)]
  let directory := chars "PWD"
  let place := if isThere then Script.ofBytes (Path.ofLocation here).bytes else []
  -- What the shell sets itself is not taken from the environment.
  let names := directory :: own.map (·.1)
  (directory, { value := some place, exported := true }) ::
    ((own ++ standard).map fun (name, value) => (name, { value := some value })) ++
    (given.filter fun pair => !names.contains pair.1).map fun (name, value) =>
      (name, { value := some value, exported := true })

/-- The process with another shell in it, which has its streams, its place and its environment. -/
def renewed (shell : Shell) (environment : List (List Char × List Char)) (title : List Char) : Shell :=
  let isThere := decide (shell.tree.lookup shell.here = some .directory)
  let starter := shell.waiting.headD starterNumber
  let bindings := startingVariables shell.here isThere starter environment
  -- Only what processes share and what is handed on to programs stays; the rest begins anew.
  { tree := shell.tree
    files := shell.files
    output := shell.output
    diagnostics := shell.diagnostics
    mailbox := shell.mailbox
    started := shell.started
    process := shell.process
    leader := shell.process
    waiting := shell.waiting
    descriptors := shell.descriptors
    here := shell.here
    directory := ((bindings.lookup (chars "PWD")).bind Variable.value).getD []
    mask := shell.mask
    title := title
    bindings := bindings
    traps := shell.traps.filter fun pair => pair.2 = [] }

/-- Reads the letters of a word that starts a shell: settings, and whether a text is to be run. -/
def startLetters (on : Bool) : List Char → List (List Char) → Bool → Act (List (List Char) × Bool)
  | [], words, hasText => return (words, hasText)
  | 'c' :: letters, words, _ => startLetters on letters words true
  | 'l' :: letters, words, hasText => startLetters on letters words hasText
  | 'o' :: letters, words, hasText => do
    switchNamed words.head? on
    startLetters on letters words.tail hasText
  | letter :: letters, words, hasText => do
    switchLetter letter on
    startLetters on letters words hasText

/-- Reads the words that start a shell up to the first one that is no setting; tells whether a text is to be run. -/
def startWords : Nat → List (List Char) → Bool → Act (List (List Char) × Bool)
  | 0, words, hasText => return (words, hasText)
  | fuel + 1, words, hasText => do
    match words with
    | ['-'] :: rest | ['-', '-'] :: rest => return (rest, hasText)
    | ('-' :: letters) :: rest =>
      let (rest, hasText) ← startLetters true letters rest hasText
      startWords fuel rest hasText
    | ('+' :: letters) :: rest =>
      let (rest, hasText) ← startLetters false letters rest hasText
      startWords fuel rest hasText
    | words => return (words, hasText)

/-- Gives the script a name and arguments, if there are any. -/
def setWords (words : List (List Char)) : Act Unit :=
  modify fun shell => { shell with title := words.headD shell.title, arguments := words.tail }

/-- Runs what is left of the standard input. -/
def runInput (runCommand : Command → Act Nat) : Act Unit := do
  let text := ((← get).unread? 0).getD []
  modify (·.advanced 0 text.length)
  let _ ← runScript runCommand .prompts text

/-- Runs a script that a shell is started with; an interactive shell goes on with the standard input after a complaint,
and ends with a line of its own. -/
def runMain (runCommand : Command → Act Nat) (script : Act Unit) : Act Unit := do
  if !(← get).has 'i' then script
  else
    complain (chars "can't access tty; job control turned off")
    match ← attempt script with
    -- Interactive or not, a complaint ends the script; here the input goes on in its place.
    | .error .failure => runInput runCommand
    | result => settle result
    let _ ← write 2 ['\n']

/-- Runs what the words that start a shell ask for: a text, a file, or the standard input. -/
def runWords (runCommand : Command → Act Nat) (words : List (List Char)) : Act Unit := do
  let (words, hasText) ← startWords (words.length + 1) words false
  -- A setting without a name lists all settings before anything is run.
  let _ ← flush
  match hasText, words with
  | true, [] => fail (chars "-c requires an argument")
  -- The word behind the text is the name of the script, and the others are its arguments.
  | true, text :: words =>
    setWords words
    let _ ← runLines runCommand .nothing text
    if (← get).has 's' then runMain runCommand (runInput runCommand)
  | false, [] =>
    switchLetter 's' true
    runMain runCommand (runInput runCommand)
  | false, path :: rest =>
    if (← get).has 's' then
      modify fun shell => { shell with arguments := path :: rest }
      runMain runCommand (runInput runCommand)
    else
      let text ← scriptText path
      setWords (path :: rest)
      runMain runCommand do
        let _ ← runScript runCommand .prompts text

/-- Puts a shell that is started with some words into the process, and lets it run to its end. -/
def runShell (runText : List Char → Act Unit) (runCommand : Command → Act Nat) (words : List (List Char)) :
    Act Ending := fun shell =>
  let fresh := shell.renewed shell.environment (words.headD [])
  let start : Act Unit := do
    if fresh.directory = [] then
      let _ ← write 2 (chars "sh: 0: getcwd() failed: No such file or directory\n")
    runWords runCommand words.tail
  let (result, worked) := start fresh
  let raise :=
    match result with
    | .ok _ => .leaving
    | .error raise => raise
  let (ending, worked) := endProcess runText (some raise) worked
  (ending, shell.after worked)

/-- Runs a program in place of the shell, and ends the process with it. -/
def runProgram (runShell : List (List Char) → Act Ending) (words paths : List (List Char)) : Act Nat := do
  let shell ← get
  match prepareAny shell words .notFound paths with
  | .error error =>
    -- The process ends even when nothing could be put into it.
    modify fun shell => { shell with status := faultCode error }
    complain (programFault (words.headD []) error)
    throw .ending
  | .ok arguments =>
    modify fun shell => { shell with traps := [] }
    match ← runShell (arguments.map Script.ofBytes) with
    | .exited code =>
      modify fun shell => { shell with status := code }
      throw .ending
    | .killed signal => throw (.killed signal)

end ImageHeader.Shell
