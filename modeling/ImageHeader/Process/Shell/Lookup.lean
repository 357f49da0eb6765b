import ImageHeader.Process.Executable
import ImageHeader.Process.Shell.Builtin

/-! Commands by name: functions, builtin commands and programs along the search path. -/

namespace ImageHeader.Shell

open Script (Command)

/-- What a command's name stands for. -/
inductive Referent where
  | function (body : Command)
  | builtin
  /-- A program, which still has to be found. -/
  | program

/-- What a name stands for; functions may be passed over. -/
def referent (shell : Shell) (passesFunctions : Bool) (name : List Char) : Referent :=
  if name.contains '/' then .program
  else
    -- Functions hide builtin commands, and these hide programs.
    match if passesFunctions then none else shell.functions.lookup name with
    | some body => .function body
    | none => if isBuiltin name then .builtin else .program

/-- The directories that are searched in place of those that the environment sets. -/
def standardDirectories : List (List Char) :=
  ["/usr/local/sbin", "/usr/local/bin", "/usr/sbin", "/usr/bin", "/sbin", "/bin"].map chars

/-- The path of a name in a directory; an empty one is the working directory. -/
def pathIn (directory name : List Char) : List Char :=
  if directory = [] then name else directory ++ '/' :: name

/-- The paths at which a name is searched, from the first one on where a program stands. -/
def findPrograms (shell : Shell) (name : List Char) :
    IoError → List (List Char) → Except IoError (List (List Char))
  | failure, [] => .error failure
  | failure, directory :: rest =>
    let path := pathIn directory name
    match shell.tree.find shell.here (pathOf path) with
    | .error error =>
      let missing := error = .notFound ∨ error = .notDirectory
      findPrograms shell name (if missing then failure else error) rest
    | .ok location =>
      match shell.tree.entryAt location with
      -- Those behind it stay on the list, for the file may turn out not to run.
      | .file _ true | .special .shell => .ok ((directory :: rest).map fun directory => pathIn directory name)
      | _ => findPrograms shell name .denied rest

/-- The paths at which a program may be run, the first of which is there. -/
def programPaths (shell : Shell) (directories : List (List Char)) (name : List Char) :
    Except IoError (List (List Char)) :=
  if name.contains '/' then .ok [name] else shell.findPrograms name .notFound directories

/-- What is said of a program that cannot be run. -/
def programFault (name : List Char) (error : IoError) : List Char :=
  name ++ chars ": " ++ errorText error "not found"

/-- Prints what a name stands for, in words or as the command that it leads to. -/
def describe (directories : List (List Char)) (inWords : Bool) (name : List Char) : Act Nat := do
  let shell ← get
  let tell (words : String) (plain : List Char) : Act Nat := do
    printLine (if inWords then name ++ chars words else plain)
    return 0
  if Script.reservedWords.any fun word => chars word = name then tell " is a shell keyword" name
  else
    match shell.aliases.find? fun known => known.1 = name with
    | some known =>
      if inWords then
        printLine (name ++ chars " is an alias for " ++ known.2)
      else
        print (chars "alias ")
        printAlias known
      return 0
    | none =>
      match shell.referent false name with
      | .function _ => tell " is a shell function" name
      | .builtin => tell (if isSpecial name then " is a special shell builtin" else " is a shell builtin") name
      | .program =>
        let found? : Option (List Char) :=
          if name.contains '/' then
            match shell.tree.find shell.here (pathOf name) with
            | .ok _ => some name
            | .error _ => none
          else
            match shell.findPrograms name .notFound directories with
            | .ok paths => paths.head?
            | .error _ => none
        match found? with
        | some path =>
          printLine (if inWords then name ++ chars " is " ++ path else path)
          return 0
        | none =>
          if inWords then printLine (name ++ chars ": not found")
          return 127

/-- Tells what names stand for. -/
def typeBuiltin (words : List (List Char)) : Act Nat := do
  let directories := (← get).searchPath
  let mut code := 0
  for word in words do
    code := code ||| (← describe directories true word)
  return code

/-- Tells what a name stands for when options ask for it. -/
def commandBuiltin (words : List (List Char)) : Act Nat := do
  let (options, words) ← options [('p', false), ('v', false), ('V', false)] words
  let shell ← get
  let asked := options.map (·.1)
  let directories := if asked.contains 'p' then standardDirectories else shell.searchPath
  match words with
  | [] => return 0
  | name :: _ =>
    if asked.contains 'v' || asked.contains 'V' then describe directories (asked.contains 'V') name
    else return 0

/-- Looks programs up. -/
def hashBuiltin (words : List (List Char)) : Act Nat := do
  let (_, words) ← options [('r', false)] words
  let mut code := 0
  for word in words do
    let shell ← get
    -- Nothing is kept of what was found: the search is made again at every call.
    match shell.referent false word with
    | .program =>
      match shell.programPaths shell.searchPath word with
      | .ok _ => pure ()
      | .error error =>
        complain (programFault word error)
        code := 1
    | _ => pure ()
  return code

end ImageHeader.Shell
