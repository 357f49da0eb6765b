import ImageHeader.Process.Shell.Builtin.Output
import ImageHeader.Process.Shell.Variable

/-! Builtin commands for the working directory. -/

namespace ImageHeader.Shell

/-- The path without `.` and `..`, followed from a place by its names alone. -/
def lexicalPath (origin path : List Char) : List Char :=
  let absolute := path.head? = some '/'
  -- Two slashes at the front stay two, and more count as one.
  let doubled (path : List Char) : Bool :=
    path.take 2 = ['/', '/'] && (path.drop 2).head? ≠ some '/'
  let double := doubled (if absolute then path else origin)
  let base := if absolute then [] else (origin.splitOn '/').filter (· ≠ [])
  let names := (path.splitOn '/').foldl (fun names name =>
    if name = [] || name = ['.'] then names
    else if name = ['.', '.'] then names.dropLast
    else names ++ [name]) base
  let opening := if double then ['/', '/'] else ['/']
  opening ++ ['/'].intercalate names

/-- Makes a directory the working directory, and remembers how it was reached. -/
def enter (path : List Char) (physical : Bool) : Act Bool := do
  let shell ← get
  let logical := lexicalPath shell.directory path
  let wanted := if physical || shell.directory = [] then path else logical
  match shell.tree.find shell.here (pathOf wanted) with
  | .error _ => return false
  | .ok location =>
    if shell.tree.lookup location ≠ some .directory then return false
    let reached :=
      if physical || shell.directory = [] then Script.ofBytes (Path.ofLocation location).bytes else logical
    let mark (known : Variable) : Variable := { known with exported := true }
    -- Both variables are marked, so programs learn of the change as well.
    assign (chars "OLDPWD") (some shell.directory) mark
    modify fun shell => { shell with here := location, directory := reached }
    assign (chars "PWD") (some reached) mark
    return true

/-- The directories in which a relative path is looked for, given the list of places to begin with. -/
def startingPoints (shell : Shell) (path : List Char) : List (List Char) :=
  let opening := path.takeWhile (· ≠ '/')
  if path.head? = some '/' || opening = ['.'] || opening = ['.', '.'] then [[]]
  else
    match shell.valueOf? (chars "CDPATH") with
    | none => [[]]
    -- The working directory itself comes last.
    | some places => places.splitOn ':' ++ [[]]

/-- Changes the working directory. -/
def changeDirectory : Builtin := fun _ words => do
  let (options, words) ← options [('L', false), ('P', false)] words
  let physical := (options.getLast?.map (·.1)) = some 'P'
  let shell ← get
  let (path, shown) :=
    match words with
    | [] => ((shell.valueOf? (chars "HOME")).getD [], false)
    | ['-'] :: _ => ((shell.valueOf? (chars "OLDPWD")).getD [], true)
    | path :: _ => (path, false)
  let wanted := path
  let path := if path = [] then ['.'] else path
  for place in startingPoints shell path do
    let candidate := if place = [] then path else place ++ '/' :: path
    if let .ok location := shell.tree.find shell.here (pathOf candidate) then
      if shell.tree.lookup location = some .directory then
        if ← enter candidate physical then
          if shown || place ≠ [] then printLine (← get).directory
          return 0
  -- Names alone may lead there although the path itself does not.
  if ← enter path physical then
    if shown then printLine (← get).directory
    return 0
  fail (chars "can't cd to " ++ wanted)

/-- Prints the working directory. -/
def printDirectory : Builtin := fun _ words => do
  let (options, _) ← options [('L', false), ('P', false)] words
  let shell ← get
  let physical := (options.getLast?.map (·.1)) = some 'P'
  if physical || shell.directory = [] then
    printLine (Script.ofBytes (Path.ofLocation shell.here).bytes)
  else printLine shell.directory
  return 0

end ImageHeader.Shell
