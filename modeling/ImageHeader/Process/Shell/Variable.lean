import ImageHeader.Process.Shell.Stream

/-! Variables of the shell: their values, and how commands set, hide and show them. -/

namespace ImageHeader.Shell

/-- A variable, if it is known. -/
def variableNamed? (shell : Shell) (name : List Char) : Option Variable :=
  shell.bindings.lookup name

/-- The value of a variable, if it is set. -/
def valueOf? (shell : Shell) (name : List Char) : Option (List Char) :=
  (shell.variableNamed? name).bind Variable.value

/-- The shell with a variable as given. -/
def withVariable (shell : Shell) (name : List Char) (variable' : Variable) : Shell :=
  { shell with
    bindings := (name, variable') :: shell.bindings.filter fun pair => pair.1 ≠ name }

/-- The shell without a variable. -/
def withoutVariable (shell : Shell) (name : List Char) : Shell :=
  { shell with bindings := shell.bindings.filter fun pair => pair.1 ≠ name }

/-- Sets a variable or takes its value away; `mark` adds to what is known of it. -/
def assign (name : List Char) (value : Option (List Char)) (mark : Variable → Variable) : Act Unit := do
  if !Script.isName name then fail (name ++ chars ": bad variable name")
  let shell ← get
  match shell.variableNamed? name with
  | some known =>
    -- A fixed variable may not lose its value either.
    if known.fixed then fail (name ++ chars ": is read only")
    let next := mark { known with value := value }
    -- A variable that is neither set nor marked is forgotten.
    if value.isNone && !next.exported && !next.fixed then modify (·.withoutVariable name)
    else modify (·.withVariable name next)
  | none =>
    let fresh : Variable := { value := value, exported := value.isSome && shell.has 'a' }
    let next := mark fresh
    if next.value.isSome || next.exported || next.fixed then modify (·.withVariable name next)
  -- Reading options begins anew wherever this variable says.
  if name = chars "OPTIND" then
    modify fun shell => { shell with optionPlace := (((value.bind decimal?).getD 1).toNat, 0) }

/-- Sets a variable. -/
def setVariable (name value : List Char) : Act Unit := assign name (some value) id

/-- A text that assigns a variable, as its name and value. -/
def splitAssignment (text : List Char) : List Char × Option (List Char) :=
  match text.span (· ≠ '=') with
  | (name, _ :: value) => (name, some value)
  | (name, []) => (name, none)

/-- Hides a variable until the function at work is over, and sets it if a value is given. -/
def hide (text : List Char) (mark : Variable → Variable) : Act Unit := do
  let (name, value) := splitAssignment text
  let shell ← get
  let known := shell.variableNamed? name
  match shell.frames with
  | [] => fail (chars "not in a function")
  | frame :: frames =>
    match value with
    -- The value is set before the old one is put aside, so a fixed variable cannot be hidden with another value.
    | some value => assign name (some value) mark
    | none => if known.isNone && !Script.isName name then fail (name ++ chars ": bad variable name")
    modify fun shell => { shell with frames := ((name, known) :: frame) :: frames }

/-- Opens a frame for variables that are going to be hidden. -/
def openFrame : Act Unit :=
  modify fun shell => { shell with frames := [] :: shell.frames }

/-- Brings back the variables that the last frame hides. -/
def closeFrame : Act Unit :=
  modify fun shell =>
    match shell.frames with
    | [] => shell
    | frame :: frames =>
      -- The newest entry comes first, so a variable hidden twice ends with its oldest value.
      frame.foldl (fun shell (name, known) =>
        match known with
        | some known => shell.withVariable name known
        | none => shell.withoutVariable name) { shell with frames := frames }

/-- The characters at which unquoted values fall apart; blanks if none are set. -/
def separators (shell : Shell) : List Char :=
  (shell.valueOf? (chars "IFS")).getD (chars " \t\n")

/-- The directories in which commands are searched. -/
def searchPath (shell : Shell) : List (List Char) :=
  ((shell.valueOf? (chars "PATH")).getD []).splitOn ':'

/-- A text in quotes that the shell reads back, piece by piece: single quotes around what holds none of them, and double
quotes around single ones. -/
def quotedFrom : Nat → List Char → List Char
  | 0, _ => []
  | fuel + 1, text =>
    let rest := text.dropWhile (· ≠ '\'')
    let marks := rest.takeWhile (· = '\'')
    let after := rest.dropWhile (· = '\'')
    let plain := '\'' :: text.takeWhile (· ≠ '\'') ++ ['\'']
    -- Single quotes cannot hold one, so each run of them gets quotes of the other kind.
    if marks = [] then plain
    else plain ++ '"' :: marks ++ ['"'] ++ (if after = [] then [] else quotedFrom fuel after)

/-- A text in quotes that the shell reads back. -/
def quoted (text : List Char) : List Char := quotedFrom (text.length + 1) text

/-- Prints the variables that satisfy a condition, in the order of their names. -/
def printVariables (opening : List Char) (wanted : Variable → Bool) : Act Unit := do
  let shell ← get
  let found := shell.bindings.filter fun pair => wanted pair.2
  let sorted := found.mergeSort fun first second => Script.comesBefore first.1 second.1
  for (name, known) in sorted do
    let value := (known.value.map fun value => '=' :: quoted value).getD []
    printLine (opening ++ name ++ value)

/-- The variables that programs are given. -/
def environment (shell : Shell) : List (List Char × List Char) :=
  shell.bindings.filterMap fun (name, known) =>
    if known.exported then known.value.map fun value => (name, value) else none

/-- Takes the options of a command from its words: letters of which some go with an argument. -/
def takeOptions (allowed : List (Char × Bool)) :
    Nat → List Char → List (List Char) → List (Char × List Char) → Act (List (Char × List Char) × List (List Char))
  | 0, _, words, found => return (found.reverse, words)
  | fuel + 1, letter :: letters, words, found => do
    match allowed.lookup letter, letters, words with
    | none, _, _ => fail (chars "Illegal option -" ++ [letter])
    | some false, letters, words => takeOptions allowed fuel letters words ((letter, []) :: found)
    | some true, [], [] => fail (chars "No arg for -" ++ letter :: chars " option")
    | some true, [], word :: words => takeOptions allowed fuel [] words ((letter, word) :: found)
    -- What stands behind the letter in the same word is its argument.
    | some true, letters, words => takeOptions allowed fuel [] words ((letter, letters) :: found)
  | fuel + 1, [], words, found =>
    match words with
    | ['-', '-'] :: rest => return (found.reverse, rest)
    | ('-' :: letter :: letters) :: rest => takeOptions allowed fuel (letter :: letters) rest found
    | words => return (found.reverse, words)

/-- The options of a command, and the words after them. -/
def options (allowed : List (Char × Bool)) (words : List (List Char)) :
    Act (List (Char × List Char) × List (List Char)) :=
  takeOptions allowed (words.flatten.length + words.length + 1) [] words []

/-- The letters of all settings, in the order in which they are listed; a digit stands for a setting without letter. -/
def settingNames : List (Char × String) :=
  [('e', "errexit"), ('f', "noglob"), ('I', "ignoreeof"), ('i', "interactive"), ('m', "monitor"),
    ('n', "noexec"), ('s', "stdin"), ('x', "xtrace"), ('v', "verbose"), ('V', "vi"), ('E', "emacs"),
    ('C', "noclobber"), ('a', "allexport"), ('b', "notify"), ('u', "nounset"), ('p', "privileged"),
    ('1', "nolog"), ('2', "debug")]

/-- Turns a setting on or off. -/
def switchSetting (letter : Char) (on : Bool) : Act Unit :=
  modify fun shell =>
    let others := shell.settings.filter (· ≠ letter)
    -- Only one of the two ways to edit lines can be on.
    let others := if on && letter = 'V' then others.filter (· ≠ 'E')
      else if on && letter = 'E' then others.filter (· ≠ 'V')
      else others
    { shell with settings := if on then letter :: others else others }

/-- Turns a setting on or off by its letter. -/
def switchLetter (letter : Char) (on : Bool) : Act Unit := do
  if letter.isAlpha && settingNames.any (·.1 = letter) then switchSetting letter on
  else fail (chars "Illegal option -" ++ [letter])

/-- Turns a setting on or off by its name; without a name it lists them all. -/
def switchNamed (name : Option (List Char)) (on : Bool) : Act Unit := do
  match name with
  | none =>
    let shell ← get
    if on then
      printLine (chars "Current option settings")
      for (letter, name) in settingNames do
        let blanks := List.replicate (16 - name.length) ' '
        printLine (chars name ++ blanks ++ chars (if shell.has letter then "on" else "off"))
    else
      for (letter, name) in settingNames do
        printLine (chars (if shell.has letter then "set -o " else "set +o ") ++ chars name)
  | some name =>
    match settingNames.find? fun known => chars known.2 = name with
    | some (letter, _) => switchSetting letter on
    | none => fail (chars "Illegal option -o " ++ name)

/-- The letters of the settings that are on, the last setting first. -/
def settingText (shell : Shell) : List Char :=
  (settingNames.map (·.1)).reverse.filter fun letter => letter.isAlpha && shell.has letter

end ImageHeader.Shell
