import ImageHeader.Process.Shell.Call
import ImageHeader.Process.Shell.Start

/-! Runs of the shell: commands, functions and builtin commands. -/

namespace ImageHeader.Shell

open Script (Command Part Word Redirection)

/-- Runs a builtin command under its name, and writes what it prints. A complaint ends the shell unless the command is
run on probation. -/
def runBuiltin (name : List Char) (probation : Bool) (action : Act Nat) : Act Nat := do
  let outer := (← get).command
  modify fun shell => { shell with command := some name }
  let finish : Act Unit := modify fun shell => { shell with command := outer }
  match ← attempt action with
  | .ok status =>
    -- What was printed goes out when the command is over, and only then can it be found that there is no room.
    let written ← flush
    if !written then complain (name ++ chars ": I/O error")
    finish
    setStatus (if written then status else status ||| 1)
  | .error raise =>
    -- A command that is given up still shows what it had printed.
    let _ ← flush
    finish
    if raise = .failure && probation then return (← get).status
    throw raise

/-- Runs the body of a function with arguments of its own. -/
def runFunction (body : Act Nat) (arguments : List (List Char)) : Act Nat := do
  let before ← get
  modify fun shell =>
    { shell with
      arguments := arguments
      optionPlace := (1, 0)
      loops := 0 }
  -- The caller's arguments come back however the body ends.
  let result ← attempt body
  modify fun shell =>
    { shell with
      arguments := before.arguments
      optionPlace := before.optionPlace
      loops := before.loops
      skipping :=
        match shell.skipping with
        | .function _ => .nothing
        | other => other }
  let _ ← settle result
  return (← get).status

/-- The number of rounds after which a loop is taken to have no end. -/
def roundLimit : Nat := 10000000

mutual

/-- Runs a command and gives its exit code; `tested` tells that a failure has been provided for. -/
def run : Nat → Bool → Command → Act Nat
  | 0, _, _ => throw (.killed 11)
  | fuel + 1, tested, command => do
    -- With this setting commands are read and not run.
    if (← get).has 'n' then return 0
    runTraps (runText fuel)
    let (status, checked) ← runBare fuel tested command
    runTraps (runText fuel)
    -- Only a failure that nothing looks at ends the shell, and only when it arises here and not further in.
    if checked && !tested && status ≠ 0 && (← get).has 'e' then throw .ending
    return status

/-- Runs a command as `run` does, and tells whether a failure may end the shell. -/
def runBare : Nat → Bool → Command → Act (Nat × Bool)
  | 0, _, _ => throw (.killed 11)
  | fuel + 1, tested, command => do
    let plainly (status : Nat) : Act (Nat × Bool) := do
      return (← setStatus status, false)
    match command with
    | .simple line assignments words redirections => do
      return (← setStatus (← runSimple fuel tested line assignments words redirections), true)
    | .redirected line command redirections => do
      setLine line
      -- Names are expanded before any stream is touched, so that a script in one of them still has the old streams.
      let openings ← redirections.mapM (openingOf (capture fuel) fuel)
      let restore := withStreams (← get).descriptors (redirections.map streamOf)
      match ← attempt (openings.forM (perform (capture fuel) fuel true)) with
      | .ok _ => plainly (← restoring (run fuel tested command) restore)
      | .error .failure =>
        modify restore
        return (← setStatus 2, true)
      | .error raise => throw raise
    | .subshell line body redirections => do
      setLine line
      let openings ← redirections.mapM (openingOf (capture fuel) fuel)
      let ending ← apart (fun text => runText fuel text) do
        openings.forM (perform (capture fuel) fuel false)
        let _ ← run fuel tested body
      return (← setStatus (← await ending), true)
    | .background body redirections => do
      let openings ← redirections.mapM (openingOf (capture fuel) fuel)
      let ending ← apart (fun text => runText fuel text) do
        -- What runs in the background has nothing to read.
        redirect 0 (some (← addFile ⟨.supply [], true, false⟩))
        openings.forM (perform (capture fuel) fuel false)
        let _ ← run fuel false body
      addJob ending
      return (← setStatus 0, true)
    | .pipeline commands background => do
      let stages := commands.map fun command => do
        let _ ← run fuel tested command
      let input ← if background then do
        pure (some (← addFile ⟨.supply [], true, false⟩)) else pure none
      let ending ← runStages (apart fun text => runText fuel text) background input (.exited 0) stages
      if background then
        addJob ending
        return (← setStatus 0, true)
      return (← setStatus (← await ending), true)
    | .negation command => do
      -- The verdict is turned around, so no failure in it may end the shell.
      let status ← run fuel true command
      if !(← goesOn) then plainly status else plainly (if status = 0 then 1 else 0)
    | .both first second => do
      let status ← run fuel true first
      if status ≠ 0 || !(← goesOn) then return (status, false)
      plainly (← run fuel tested second)
    | .either first second => do
      let status ← run fuel true first
      if status = 0 || !(← goesOn) then return (status, false)
      plainly (← run fuel tested second)
    | .sequence first second => do
      let status ← run fuel tested first
      if !(← goesOn) then return (status, false)
      plainly (← run fuel tested second)
    | .branch condition body otherwise => do
      let verdict ← run fuel true condition
      if !(← goesOn) then return (verdict, false)
      match verdict, otherwise with
      | 0, _ => plainly (← run fuel tested body)
      | _, some other => plainly (← run fuel tested other)
      | _, none => plainly 0
    | .loop succeeding condition body => do
      plainly (← inLoop (runLoop succeeding (run fuel true condition) (run fuel tested body) 0 roundLimit))
    | .each line name words body => do
      setLine line
      let mut values : Array (List Char) := #[]
      for word in words do
        values := values ++ (← expandFields (capture fuel) fuel word)
      plainly (← inLoop (runEach name (run fuel tested body) 0 values.toList))
    | .choice line word arms => do
      setLine line
      let text ← expandText (capture fuel) fuel .text word
      plainly (← runArms fuel tested text arms)
    -- A function is only noted; its body is looked at when it is called.
    | .function name body => do
      modify fun shell =>
        { shell with functions := (name, body) :: shell.functions.filter fun pair => pair.1 ≠ name }
      plainly 0

/-- Runs the first arm of which a pattern matches a text. -/
def runArms : Nat → Bool → List Char → List (List Word × Option Command) → Act Nat
  | 0, _, _, _ => throw (.killed 11)
  | fuel + 1, tested, text, arms => do
    for (patterns, body) in arms do
      for pattern in patterns do
        -- A script in a pattern may leave the loop around the choice.
        if (← get).skipping = .nothing then
          if (← expandPattern (capture fuel) fuel pattern).matchesText text then
            match body with
            | some body => return ← run fuel tested body
            | none => return 0
    return 0

/-- Runs a script within a word, and gives what it prints without the line ends at its end. -/
def capture : Nat → Command → Act (List Char)
  | 0, _ => throw (.killed 11)
  | fuel + 1, script => do
    -- The script works on a copy of the shell, so that nothing but its output and the tree is left of it.
    let index ← addFile ⟨.collection #[], false, true⟩
    let ending ← apart (fun text => runText fuel text) do
      redirect 1 (some index)
      let _ ← run fuel false script
    let status ← await ending
    modify fun shell => { shell with innerStatus := status }
    let printed := ((← get).collected index).filter (· ≠ gap)
    return (printed.reverse.dropWhile (· = '\n')).reverse

/-- Runs assignments and a command of words. -/
def runSimple : Nat → Bool → Nat → List Word → List Word → List Redirection → Act Nat
  | 0, _, _, _, _, _ => throw (.killed 11)
  | fuel + 1, tested, line, assignments, words, redirections => do
    modify fun shell => { shell with line := line, innerStatus := 0 }
    let expand : Expand := expandFields (capture fuel) fuel
    let assigning : Expand := fun word => do
      let (name, value) ← expandAssignment (capture fuel) fuel word
      return [name ++ '=' :: value]
    -- The first word that gives a field names the command, which decides how the others are expanded.
    let (fields, rest) ← expandNext expand words
    let call ← Call.resolve expand fuel { fields := fields, rest := rest }
    let call ← call.expandRest expand assigning
    let before ← get
    let restore := withStreams before.descriptors (redirections.map streamOf)
    -- What `exec` does to streams lasts.
    let lasting := call.builtinName? = some (chars "exec")
    if call.hidesVariables then openFrame
    let result ← attempt do
      let openings ← redirections.mapM (openingOf (capture fuel) fuel)
      match ← attempt (openings.forM (perform (capture fuel) fuel true)) with
      | .error .failure =>
        modify restore
        -- A redirection that fails is the failure of the command, which for some commands is that of the shell.
        if call.special = some true then throw .failure
        setStatus 2
      | .error raise => throw raise
      | .ok _ =>
        let mark (known : Variable) : Variable :=
          { known with exported := known.exported || (lasting && 1 < call.words.length) }
        let mut assigned : Array (List Char) := #[]
        for word in assignments do
          let (name, value) ← expandAssignment (capture fuel) fuel word
          let text := name ++ '=' :: value
          -- Beside a command an assignment lasts as long as the command; alone it lasts.
          if call.hidesVariables then hide text fun known => { known with exported := true }
          else assign name (some value) mark
          assigned := assigned.push text
        let shell ← get
        if shell.has 'x' then
          let opening ← expandPrompt fuel ((shell.valueOf? (chars "PS4")).getD [])
          trace before.descriptors opening (assigned.toList ++ call.fields)
        runCall fuel tested call
    if !lasting then modify restore
    let status ← settle result
    closeFrames before.frames.length
    return status

/-- Expands the text that is shown in front of a command. -/
def expandPrompt : Nat → List Char → Act (List Char)
  | 0, _ => throw (.killed 11)
  | fuel + 1, text => do
    let reading : Script.Reading (List Part) := do
      let surroundings := Script.surroundings (Script.readingDepth text.length)
      Script.readParts { surroundings with inDocument := true } (text.length * 2 + 4) .document true []
    match reading { rest := text } with
    | .ok (parts, _) => expandText (capture fuel) fuel .text parts.reverse
    | .error _ => return text

/-- Runs the command that a call has led to. -/
def runCall : Nat → Bool → Call → Act Nat
  | 0, _, _ => throw (.killed 11)
  | fuel + 1, tested, call => do
    match call.referent, call.words with
    -- Without a command there is only what the last script within the words has left.
    | _, [] => setStatus (← get).innerStatus
    | .builtin, name :: arguments =>
      runBuiltin name (call.special ≠ some true) (runNamed fuel tested name arguments)
    | .function body, _ :: arguments => runFunction (run fuel tested body) arguments
    | .program, name :: arguments =>
      let shell ← get
      let directories := if call.standard then standardDirectories else shell.searchPath
      match shell.programPaths directories name with
      | .error error =>
        complain (programFault name error)
        setStatus 127
      | .ok paths =>
        -- A program takes a process of its own, and the shell waits for it.
        let ending ← apart (fun text => runText fuel text) do
          let _ ← runProgram (startShell fuel) (name :: arguments) paths
        setStatus (← await ending)

/-- Runs a builtin command. -/
def runNamed : Nat → Bool → List Char → List (List Char) → Act Nat
  | 0, _, _, _ => throw (.killed 11)
  | fuel + 1, tested, name, words =>
    match String.ofList name with
    | "." => do
      let (_, words) ← options [] words
      match words with
      | [] => return 0
      | file :: _ =>
        -- The script is read in the same shell, so what it sets stays.
        let path ← scriptPath file
        let text ← scriptText path
        modify fun shell => { shell with command := some path }
        runScript (run fuel false) .lines text
    | "command" => commandBuiltin words
    | "eval" =>
      if words.isEmpty then return 0 else runLines (run fuel tested) .nothing ([' '].intercalate words)
    | "exec" => do
      let (_, words) ← options [] words
      match words with
      | [] => return 0
      | program :: _ =>
        let directories := (← get).searchPath
        let paths := if program.contains '/' then [program] else
          directories.map fun directory => pathIn directory program
        runProgram (startShell fuel) words paths
    | "hash" => hashBuiltin words
    | "type" => typeBuiltin words
    | text =>
      match plainBuiltin? text with
      | some builtin => builtin name words
      | none => return 127

/-- Runs the text of a script, whose failures are not provided for. -/
def runText : Nat → List Char → Act Unit
  | 0, _ => throw (.killed 11)
  | fuel + 1, text => do
    let _ ← runLines (run fuel false) .nothing text

/-- Runs another shell in this process. -/
def startShell : Nat → List (List Char) → Act Ending
  | 0, _ => return .killed 11
  | fuel + 1, words => runShell (runText fuel) (run fuel false) words

end

/-- The depth of commands within commands at which a process breaks down. -/
def depthLimit : Nat := 20000

/-- The shell right before it is started with an environment: it reads nothing, and its output is kept. -/
def fresh (tree : FileTree) (here : Location) : Shell :=
  { tree := tree
    files := #[⟨.supply [], true, false⟩, ⟨.output, false, true⟩, ⟨.diagnostics, false, true⟩]
    descriptors := [(0, 0), (1, 1), (2, 2)]
    process := starterNumber + 1
    leader := starterNumber + 1
    here := here
    title := [] }

/-- Starts a shell with some words, and runs it to its end. -/
def start (tree : FileTree) (here : Location) (environment : List (List Char × List Char))
    (words : List (List Char)) : Ending × Shell :=
  let bindings := environment.map fun (name, value) => (name, ({ value := some value, exported := true } : Variable))
  match startShell depthLimit words { fresh tree here with bindings := bindings } with
  | (.ok ending, shell) => (ending, shell)
  -- A start that is given up ends with the code that the complaint left.
  | (.error _, shell) => (.exited shell.status, shell)

end ImageHeader.Shell
