import ImageHeader.Process.Shell.Expansion
import ImageHeader.Process.Shell.Lookup

/-! Calls of commands by words: the command that the first words lead to, and the redirections beside them. -/

namespace ImageHeader.Shell

open Script (Word Redirection)

/-- Expands a word to fields. -/
abbrev Expand := Word → Act (List (List Char))

/-- Expands words up to the first one that gives any field; the words after it stay. -/
def expandNext (expand : Expand) : List Word → Act (List (List Char) × List Word)
  | [] => return ([], [])
  | word :: rest => do
    let fields ← expand word
    if fields.isEmpty then expandNext expand rest else return (fields, rest)

/-- A call that is being looked at. -/
structure Call where
  /-- The fields that were found so far. -/
  fields : List (List Char) := []
  /-- The words that are still to be expanded. -/
  rest : List Word
  /-- The number of fields in front that only say how the command is to be looked up. -/
  skipped : Nat := 0
  /-- What the name stands for. -/
  referent : Referent := .builtin
  /-- Whether the first name is that of a builtin command, and of one that keeps its assignments. -/
  special : Option Bool := none
  /-- Whether functions are passed over. -/
  passesFunctions : Bool := false
  /-- Whether programs are searched in the standard directories. -/
  standard : Bool := false

namespace Call

/-- The name of the command and its arguments. -/
def words (call : Call) : List (List Char) := call.fields.drop call.skipped

/-- The name of the builtin command that is called, if one is. -/
def builtinName? (call : Call) : Option (List Char) :=
  match call.referent with
  | .builtin => call.words.head?
  | _ => none

/-- Whether the command has its variables for itself. -/
def hidesVariables (call : Call) : Bool := !call.fields.isEmpty && call.special ≠ some true

/-- The call with at least a number of fields, if there are so many. -/
def reach (expand : Expand) (count : Nat) (call : Call) : Act Call := do
  if count ≤ call.fields.length then return call
  let (more, rest) ← expandNext expand call.rest
  return { call with fields := call.fields ++ more, rest := rest }

/-- The call of the command behind options of `command`, from an index on; none when it has another job. -/
def behind? (expand : Expand) : Nat → Nat → Call → Act (Call × Bool)
  | 0, _, call => return (call, false)
  | fuel + 1, index, call => do
    let call ← call.reach expand (index + 1)
    match call.fields[index]? with
    | none => return (call, false)
    | some ['-', '-'] =>
      let call ← call.reach expand (index + 2)
      if call.fields.length ≤ index + 1 then return (call, false)
      return ({ call with skipped := index + 1 }, true)
    | some ('-' :: letter :: letters) =>
      if (letter :: letters).all (· = 'p') then behind? expand fuel (index + 1) { call with standard := true }
      else return (call, false)
    | some _ => return ({ call with skipped := index }, true)

/-- Looks up the command of a call, behind any number of names `command`. -/
def resolve (expand : Expand) : Nat → Call → Act Call
  | 0, call => return call
  | fuel + 1, call => do
    match call.words.head? with
    | none => return call
    | some name =>
      let call := { call with referent := (← get).referent call.passesFunctions name }
      match call.referent with
      | .builtin =>
        let call := { call with special := some (call.special.getD (isSpecial name)) }
        if name ≠ chars "command" then return call
        let (next, found) ← call.behind? expand fuel (call.skipped + 1)
        if found then resolve expand fuel { next with passesFunctions := true } else return next
      | _ => return call

/-- Expands the words that are left; `assigning` gives the field of a word that assigns. -/
def expandRest (expand assigning : Expand) (call : Call) : Act Call := do
  let assigns := call.builtinName?.any takesAssignments
  let mut fields := #[]
  for word in call.rest do
    let more ← if assigns && (Script.assignedName? word).isSome then assigning word else expand word
    fields := fields ++ more
  return { call with fields := call.fields ++ fields.toList, rest := [] }

end Call

/-- A redirection with its word expanded. -/
inductive Opening where
  | file (stream : Nat) (access : Script.Access) (name : List Char)
  | copy (stream : Nat) (source : Option Nat)
  | document (stream number : Nat)

/-- The stream that a redirection is about. -/
def streamOf : Redirection → Nat
  | .file stream .. | .copy stream _ | .copyNamed stream _ | .document stream _ => stream

/-- Expands the word of a redirection. -/
def openingOf (capture : Capture) (fuel : Nat) : Redirection → Act Opening
  | .file stream access name => do
    return .file stream access (← expandText capture fuel .text name)
  | .copy stream source => return .copy stream source
  | .copyNamed stream word => do
    match ← expandText capture fuel .text word with
    | ['-'] => return .copy stream none
    | [digit] => if digit.isDigit then return .copy stream (some (Script.decimal [digit])) else failCopy
    | _ => failCopy
  | .document stream number => return .document stream number
where
  /-- Complains about a text that names no stream. -/
  failCopy : Act Opening := do
    -- The fault is blamed on the line up to which the script was read.
    modify fun shell => { shell with line := shell.reached }
    fail (chars "Syntax error: Bad fd number")

/-- Leads a stream to where a redirection asks for; it may have been saved for later. -/
def perform (capture : Capture) (fuel : Nat) (saved : Bool) : Opening → Act Unit
  | .file stream access name => do
    redirect stream (some (← openNamed access name))
  | .copy stream (some source) => copyStream saved stream source
  | .copy stream none => redirect stream none
  | .document stream number => do
    -- A document is expanded when its stream is opened, not where it stands.
    let word := ((← get).documents[number]?).getD []
    let text ← expandText capture fuel .text word
    redirect stream (some (← addFile ⟨.supply text, true, false⟩))

/-- The shell with some streams leading to where they led before. -/
def withStreams (descriptors : List (Nat × Nat)) (streams : List Nat) (shell : Shell) : Shell :=
  -- A stream that was closed before is closed again, since it is on neither side.
  let others := shell.descriptors.filter fun pair => !streams.contains pair.1
  { shell with descriptors := (descriptors.filter fun pair => streams.contains pair.1) ++ others }

/-- Closes frames until a number of them is left. -/
def closeFrames (count : Nat) : Act Unit := do
  for _ in List.range ((← get).frames.length - count) do
    closeFrame

/-- Shows a command before it is run, on the stream of complaints as it was before. -/
def trace (descriptors : List (Nat × Nat)) (opening : List Char) (words : List (List Char)) : Act Unit := do
  let inner := (← get).descriptors
  modify fun shell => { shell with descriptors := descriptors }
  let _ ← write 2 (opening ++ [' '].intercalate words ++ ['\n'])
  modify fun shell => { shell with descriptors := inner }

end ImageHeader.Shell
