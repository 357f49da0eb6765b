import ImageHeader.Process.Shell.Variable

/-! Loops of the shell: their rounds, and what a command that leaves them passes over. -/

namespace ImageHeader.Shell

/-- Sets the exit code. -/
def setStatus (status : Nat) : Act Nat := do
  modify fun shell => { shell with status := status }
  return status

/-- Sets the line of the command at work. -/
def setLine (line : Nat) : Act Unit :=
  modify fun shell => { shell with line := line }

/-- Whether nothing is being passed over. -/
def goesOn : Act Bool := do
  return (← get).skipping = .nothing

/-- What is to be passed over at the end of a round of a loop, of which one round has then been passed over. -/
def takeRound : Act Skipping :=
  modifyGet fun shell =>
    let left : Skipping × Skipping :=
      match shell.skipping with
      -- This loop ends, and with it one of those that are still to be left.
      | .loops count => if count ≤ 1 then (.loops 1, .nothing) else (.loops 1, .loops (count - 1))
      | .bodies count => if count ≤ 1 then (.bodies 1, .nothing) else (.loops 1, .bodies (count - 1))
      | other => (other, other)
    (left.1, { shell with skipping := left.2 })

/-- Whether a loop goes on with its next round after what was passed over. -/
def loopGoesOn : Skipping → Bool
  | .nothing | .bodies _ => true
  | _ => false

/-- Runs a step as a round of loops. -/
def inLoop (step : Act Nat) : Act Nat := do
  modify fun shell => { shell with loops := shell.loops + 1 }
  let status ← step
  modify fun shell => { shell with loops := shell.loops - 1 }
  return status

/-- Runs a body as long as a condition succeeds, or as long as it fails. -/
def runLoop (succeeding : Bool) (condition body : Act Nat) (status : Nat) : Nat → Act Nat
  -- A loop without an end would never let the caller go on; it counts as stopped from outside.
  | 0 => throw (.killed 9)
  | rounds + 1 => do
    let verdict ← condition
    match ← takeRound with
    -- To go on from within the condition is to go on with the loop.
    | .bodies _ => runLoop succeeding condition body status rounds
    | .function true => return verdict
    | .nothing =>
      if decide (verdict = 0) ≠ succeeding then return status
      let status ← body
      if loopGoesOn (← takeRound) then runLoop succeeding condition body status rounds else return status
    | _ => return status

/-- Runs a body for one value of a variable after another. -/
def runEach (name : List Char) (body : Act Nat) : Nat → List (List Char) → Act Nat
  | status, [] => return status
  | _, value :: rest => do
    setVariable name value
    let status ← body
    if loopGoesOn (← takeRound) then runEach name body status rest else return status

end ImageHeader.Shell
