import ImageHeader.Process.Shell.Variable

/-! Signals of the shell: their names, what is done when they arrive, and how they are sent. -/

namespace ImageHeader.Shell

/-- The number of signals, with the one that stands for the end of the shell. -/
def signalCount : Nat := 65

/-- The name of a signal as the shell lists it. -/
def signalName (signal : Nat) : List Char :=
  let real (base : String) (distance : Nat) (sign : String) : List Char :=
    chars (if distance = 0 then base else base ++ sign ++ toString distance)
  if signal = 0 then chars "EXIT"
  else if 34 ≤ signal && signal ≤ 49 then real "RTMIN" (signal - 34) "+"
  else if 50 ≤ signal && signal ≤ 64 then real "RTMAX" (64 - signal) "-"
  else if signal = 16 then chars "16"
  else
    match ExitStatus.signalNames[signal - 1]? with
    | some name => chars name
    | none => chars (toString signal)

/-- The signal that a number or a name stands for; the end of the shell counts only if it is asked for. -/
def signal? (least : Nat) (text : List Char) : Option Nat :=
  if text ≠ [] && text.all Char.isDigit then
    let signal := Script.decimal text
    if signal < signalCount then some signal else none
  else
    let wanted := text.map Char.toUpper
    (List.range signalCount).find? fun signal => least ≤ signal && signalName signal = wanted

/-- What is said of a process that a signal has ended; of two signals nothing is. -/
def signalText (signal : Nat) : List Char :=
  if signal = 2 ∨ signal = 13 then []
  else
    let texts := ["Hangup", "Interrupt", "Quit", "Illegal instruction", "Trace/breakpoint trap", "Aborted",
      "Bus error", "Floating point exception", "Killed", "User defined signal 1", "Segmentation fault",
      "User defined signal 2", "Broken pipe", "Alarm clock", "Terminated", "Stack fault", "Child exited",
      "Continued", "Stopped (signal)", "Stopped", "Stopped (tty input)", "Stopped (tty output)",
      "Urgent I/O condition", "CPU time limit exceeded", "File size limit exceeded", "Virtual timer expired",
      "Profiling timer expired", "Window changed", "I/O possible", "Power failure", "Bad system call"]
    match texts[signal - 1]? with
    | some text => chars text ++ ['\n']
    | none =>
      if 34 ≤ signal then chars ("Real-time signal " ++ toString (signal - 34)) ++ ['\n']
      else chars ("Unknown signal " ++ toString signal) ++ ['\n']

/-- The signals that do nothing, or only stop a process, when no command is set for them. -/
def harmlessSignals : List Nat := [0, 17, 18, 19, 20, 21, 22, 23, 28]

/-- Lets a signal arrive at the process. -/
def deliver (signal : Nat) : Act Unit := do
  match (← get).traps.lookup signal with
  -- An ignored signal does nothing, but nobody can ignore the ninth.
  | some [] => if signal = 9 then throw (.killed signal)
  | some _ =>
    if signal = 9 then throw (.killed signal)
    -- The script runs between two commands and not here.
    else modify fun shell =>
      if shell.pending.contains signal then shell else { shell with pending := signal :: shell.pending }
  | none => if harmlessSignals.contains signal then pure () else throw (.killed signal)

/-- Lets the signals arrive that other processes have sent to this one while it was waiting. -/
def collectSignals : Act Unit := do
  let shell ← get
  let (own, others) := shell.mailbox.partition fun sent => sent.1 = shell.process
  modify fun shell => { shell with mailbox := others }
  for (_, signal) in own.reverse do
    deliver signal

/-- Sends a signal to a process, and tells whether there is one. -/
def send (signal process : Nat) : Act Bool := do
  let shell ← get
  if process = shell.process then
    if signal ≠ 0 then deliver signal
    return true
  -- A process that waits learns of it when its turn comes.
  if shell.waiting.contains process then
    if signal ≠ 0 then modify fun shell => { shell with mailbox := (process, signal) :: shell.mailbox }
    return true
  return (shell.jobs.lookup process).isSome || process = starterNumber

/-- What is told of the way in which signals are sent. -/
def killUsage : String :=
  "Usage: kill [-s sigspec | -signum | -sigspec] [pid | job]... or\nkill -l [exitstatus]"

/-- Lists the signals, or names the one behind an exit code. -/
def listSignals (words : List (List Char)) : Act Nat := do
  match words with
  | [] =>
    printLine ['0']
    for signal in (List.range signalCount).tail do
      printLine (signalName signal)
    return 0
  | word :: _ =>
    let code ← number word
    let signal := if code > 128 then code - 128 else code
    if 0 < signal ∧ signal < signalCount then
      printLine (signalName signal)
      return 0
    fail (chars "invalid signal number or exit status: " ++ word)

/-- Sends a signal to processes. -/
def sendAll (signal : Nat) (words : List (List Char)) : Act Nat := do
  let mut code := 0
  for word in words do
    let process ←
      match word with
      | '%' :: _ => fail (chars "No such job: " ++ word)
      -- The minus asks for the group of a process, of which it is the only member.
      | '-' :: digits => number digits
      | digits => number digits
    if !(← send signal process) then
      complain (chars "No such process\n")
      code := 1
  return code

/-- Sends signals as the words of a command ask. -/
def killBuiltin (words : List (List Char)) : Act Nat := do
  let usage : Act Nat := fail (chars killUsage)
  let start (signal : Option Nat) (words : List (List Char)) : Act Nat :=
    if words.isEmpty then usage else sendAll (signal.getD 15) words
  match words with
  | ('-' :: name) :: rest =>
    match signal? 1 name with
    | some signal => start (some signal) rest
    | none =>
      let named (text : List Char) (rest : List (List Char)) : Act Nat :=
        match signal? 1 text with
        | some signal => start (some signal) (if rest.head? = some ['-', '-'] then rest.tail else rest)
        | none => fail (chars "invalid signal number or name: " ++ text)
      match name, rest with
      | [], _ => start none words
      | ['-'], _ => start none rest
      | 'l' :: _, _ => listSignals rest
      | ['s'], [] => fail (chars "No arg for -s option")
      | ['s'], text :: rest => named text rest
      | 's' :: text, _ => named text rest
      | letter :: _, _ => fail (chars "Illegal option -" ++ [letter])
  | [] => usage
  | words => start none words

/-- Sets what is done on signals, or lists it. -/
def trapBuiltin (words : List (List Char)) : Act Nat := do
  let (_, words) ← options [] words
  match words with
  | [] =>
    let shell ← get
    for signal in List.range signalCount do
      match shell.traps.lookup signal with
      | some action => printLine (chars "trap -- " ++ quoted action ++ [' '] ++ signalName signal)
      | none => pure ()
    return 0
  | first :: rest =>
    -- A number in front is a signal and no script.
    let alone := rest.isEmpty || (first ≠ [] && first.all Char.isDigit && (signal? 0 first).isSome)
    let action := if alone || first = ['-'] then none else some first
    let mut code := 0
    for word in if alone then first :: rest else rest do
      if code = 0 then
        match signal? 0 word with
        | some signal =>
          modify fun shell =>
            let others := shell.traps.filter fun pair => pair.1 ≠ signal
            { shell with
              traps :=
                match action with
                | some action => (signal, action) :: others
                | none => others }
        | none =>
          let _ ← write 2 (chars "trap: " ++ word ++ chars ": bad trap\n")
          code := 1
    return code

end ImageHeader.Shell
