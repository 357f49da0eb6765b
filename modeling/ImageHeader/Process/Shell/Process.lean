import ImageHeader.Process.Shell.Signal

/-! Processes of the shell: how they are started, waited for and ended. -/

namespace ImageHeader.Shell

/-- How a process ends. -/
inductive Ending where
  | exited (code : Nat)
  | killed (signal : Nat)
  deriving DecidableEq, Repr

/-- The exit code that a shell knows an ending by. -/
def Ending.code : Ending → Nat
  | .exited code => code % 256
  | .killed signal => 128 + signal

/-- Runs a step and tells how it ended. -/
def attempt {α : Type} (step : Act α) : Act (Except Raise α) := fun shell =>
  -- What the step has done to the shell stays, whether it was given up or not.
  let (result, shell) := step shell
  (.ok result, shell)

/-- Goes on as a step has ended. -/
def settle {α : Type} : Except Raise α → Act α
  | .ok value => return value
  | .error raise => throw raise

/-- Runs a step, and then restores something whether the step was given up or not. -/
def restoring {α : Type} (step : Act α) (restore : Shell → Shell) : Act α := do
  let result ← attempt step
  modify restore
  settle result

/-- Forgets that something is being passed over, and recalls the exit code that was put aside when the shell is left
or a script has returned without a code of its own. -/
def stopSkipping (raise : Option Raise) : Act Unit :=
  modify fun shell =>
    let recalls := raise = some .leaving || shell.skipping = .function false
    { shell with
      status := if recalls then shell.kept.getD shell.status else shell.status
      kept := none
      skipping := .nothing
      loops := 0 }

/-- Ends a process after its last step; a script that was set for this moment still runs. -/
def endProcess (runText : List Char → Act Unit) (raise : Option Raise) : Act Ending := do
  if let some (.killed signal) := raise then return .killed signal
  stopSkipping raise
  match (← get).traps.lookup 0 with
  | none => return .exited (← get).status
  | some script =>
    modify fun shell =>
      { shell with
        -- The script is taken away first, so that it cannot run again at its own end.
        traps := shell.traps.filter fun pair => pair.1 ≠ 0
        kept := some shell.status }
    match ← attempt (runText script) with
    | .error (.killed signal) => return .killed signal
    | .error raise => stopSkipping (some raise)
    | .ok _ =>
      -- A script that came to its end leaves the code from before it.
      modify fun shell => { shell with skipping := .function false }
      stopSkipping raise
    return .exited (← get).status

/-- The shell after another process has worked on the same files. -/
def after (shell worked : Shell) : Shell :=
  { shell with
    tree := worked.tree
    files := worked.files
    output := worked.output
    diagnostics := worked.diagnostics
    mailbox := worked.mailbox
    started := worked.started }

/-- The shell after a signal has arrived that only matters if a script is set for it. -/
def noticing (shell : Shell) (signal : Nat) : Shell :=
  match shell.traps.lookup signal with
  | none | some [] => shell
  | some _ =>
    if shell.pending.contains signal then shell else { shell with pending := signal :: shell.pending }

/-- Runs a step to its end in a copy of this process; only ignored signals stay ignored there. -/
def apart (runText : List Char → Act Unit) (step : Act Unit) : Act Ending := fun shell =>
  -- The copy has a number of its own and knows who waits for it; scripts for signals are not handed on.
  let copy : Shell :=
    { shell with
      process := starterNumber + 2 + shell.started
      started := shell.started + 1
      waiting := shell.process :: shell.waiting
      traps := shell.traps.filter fun pair => pair.2 = []
      pending := [] }
  let (result, copy) := step copy
  let raise :=
    match result with
    | .ok _ => .ending
    | .error raise => raise
  let (ending, copy) := endProcess runText (some raise) copy
  -- Nothing of the copy lasts but what all processes share, and the news of its end.
  (ending, (shell.after copy).noticing 17)

/-- Tells of the signal that has ended a process, if one has. -/
def report (ending : Ending) : Act Unit := do
  if let .killed signal := ending then
    let _ ← write 2 (signalText signal)

/-- Whether the shell ignores that processes end, so that it does not learn how. -/
def ignoresEndings (shell : Shell) : Bool := shell.traps.lookup 17 = some []

/-- Takes the exit code of a process that has ended. -/
def await (ending : Ending) : Act Nat := do
  if (← get).ignoresEndings then
    collectSignals
    return 0
  report ending
  collectSignals
  return ending.code

/-- Notes a process in the background. -/
def addJob (ending : Ending) : Act Unit := do
  modify fun shell => { shell with jobs := (starterNumber + 1 + shell.started, ending.code) :: shell.jobs }
  collectSignals

/-- The bytes that an open file has collected. -/
def collected (shell : Shell) (index : Nat) : List Char :=
  match (shell.files[index]?).map OpenFile.channel with
  | some (.collection held) => Script.ofBytes held.toList
  | _ => []

/-- Runs commands one after the other, each in a process of its own that reads what the one before it has written, and
tells how the last one ended. -/
def runStages (apart : Act Unit → Act Ending) (background : Bool) : Option Nat → Ending → List (Act Unit) → Act Ending
  | _, last, [] => return last
  | input, _, stage :: rest => do
    -- All but the last collect what they write for the next one, which starts only when it is complete.
    let output ← if rest.isEmpty then pure none else do
      pure (some (← addFile ⟨.collection #[], false, true⟩))
    let ending ← apart do
      if let some index := input then redirect 0 (some index)
      if let some index := output then redirect 1 (some index)
      stage
    if !background && !rest.isEmpty then report ending
    let input ←
      match output with
      | none => pure none
      | some index => do
        pure (some (← addFile ⟨.supply ((← get).collected index), true, false⟩))
    runStages apart background input ending rest

/-- Runs the scripts of the signals that have arrived; the exit code from before is kept unless a script leaves a
function with one of its own. -/
def runTraps (runText : List Char → Act Unit) : Act Unit := do
  let shell ← get
  if shell.pending.isEmpty then return
  let status := shell.kept.getD shell.status
  modify fun shell => { shell with kept := some status }
  for signal in shell.pending.mergeSort fun first second => decide (first ≤ second) do
    -- A script may leave a loop or function, and the signals after it then wait for the next command.
    if (← get).skipping = .nothing then
      modify fun shell => { shell with pending := shell.pending.filter (· ≠ signal) }
      match (← get).traps.lookup signal with
      | none => pure ()
      | some script =>
        runText script
        modify fun after =>
          if after.skipping = .function true then after else { after with status := status }
  modify fun after => { after with kept := shell.kept }

end ImageHeader.Shell
