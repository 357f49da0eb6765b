import ImageHeader.Process.Shell.Builtin.Output
import ImageHeader.Process.Shell.Field
import ImageHeader.Process.Shell.Variable

/-! Builtin commands that set arguments, settings and variables. -/

namespace ImageHeader.Shell

/-- Gives the script or function other arguments. -/
def setArguments (words : List (List Char)) : Act Unit :=
  modify fun shell => { shell with arguments := words, optionPlace := (1, 0) }

/-- Drops arguments. -/
def shift : Builtin := fun _ words => do
  let count ←
    match words with
    | [] => pure 1
    | word :: _ => number word
  let arguments := (← get).arguments
  if arguments.length < count then fail (chars "can't shift that many")
  setArguments (arguments.drop count)
  return 0

/-- Switches settings by the letters of a word; a setting may be named by the next word. -/
def switchLetters (on : Bool) : List Char → List (List Char) → Act (List (List Char))
  | [], words => return words
  | 'o' :: letters, words => do
    switchNamed words.head? on
    switchLetters on letters words.tail
  | letter :: letters, words => do
    switchLetter letter on
    switchLetters on letters words

/-- Switches settings as words ask; the words after them, and whether a sign tells that these are arguments. -/
def switchAll : Nat → List (List Char) → Act (List (List Char) × Bool)
  | 0, words => return (words, false)
  | fuel + 1, words => do
    match words with
    | ['-'] :: rest =>
      switchSetting 'x' false
      switchSetting 'v' false
      return (rest, false)
    | ['-', '-'] :: rest => return (rest, true)
    | ('-' :: letters) :: rest => switchAll fuel (← switchLetters true letters rest)
    | ('+' :: letters) :: rest => switchAll fuel (← switchLetters false letters rest)
    | words => return (words, false)

/-- Switches settings and sets arguments, or shows the variables. -/
def set : Builtin := fun _ words => do
  if words.isEmpty then
    printVariables [] fun known => known.value.isSome
    return 0
  let (words, explicit) ← switchAll (words.length + 1) words
  -- A sign with nothing behind it takes all arguments away.
  if explicit || !words.isEmpty then setArguments words
  return 0

/-- Marks variables, and sets those that are given with a value; or shows the marked ones. -/
def markAll (mark : Variable → Variable) (marked : Variable → Bool) : Builtin := fun name words => do
  let (options, words) ← options [('p', false)] words
  if !options.isEmpty || words.isEmpty then
    printVariables (name ++ [' ']) marked
    return 0
  for word in words do
    let (name, value) := splitAssignment word
    match value, (← get).variableNamed? name with
    -- A mark changes no value, so even a fixed variable may be marked.
    | none, some known => modify (·.withVariable name (mark known))
    | value, _ => assign name value mark
  return 0

/-- Has programs be given variables. -/
def exportAll : Builtin :=
  markAll (fun known => { known with exported := true }) fun known => known.exported

/-- Makes variables keep their values. -/
def fixAll : Builtin :=
  markAll (fun known => { known with fixed := true }) fun known => known.fixed

/-- Hides variables until the function at work is over. -/
def hideAll : Builtin := fun _ words => do
  if (← get).frames.isEmpty then fail (chars "not in a function")
  for word in words do
    hide word id
  return 0

/-- Takes variables or functions away. -/
def unset : Builtin := fun _ words => do
  let (options, words) ← options [('v', false), ('f', false)] words
  let functions := (options.getLast?.map (·.1)) = some 'f'
  for word in words do
    if functions then
      modify fun shell =>
        { shell with functions := shell.functions.filter fun pair => pair.1 ≠ word }
    else assign word none fun known => { known with exported := false }
  return 0

/-- Reads a line into stretches: a backslash, unless it is taken as it is, keeps the next character from separating
fields and joins lines. Gives the number of characters read, and whether the line has an end. -/
def readStretches (raw : Bool) : List Char → Bool → Nat → List Stretch → List Stretch × Nat × Bool
  | [], _, count, found => (found.reverse, count, false)
  -- The line goes on behind a hidden line end.
  | '\n' :: rest, true, count, found => readStretches raw rest false (count + 1) (⟨.separators, []⟩ :: found)
  | '\n' :: _, false, count, found => (found.reverse, count + 1, true)
  | char :: rest, escaped, count, found =>
    if char = gap then readStretches raw rest escaped (count + 1) found
    else if escaped then
      readStretches raw rest false (count + 1)
        (⟨.separators, []⟩ :: ⟨.nowhere, piecesOf false [char]⟩ :: found)
    else if char = '\\' && !raw then readStretches raw rest true (count + 1) found
    else
      match found with
      | ⟨.separators, pieces⟩ :: found =>
        readStretches raw rest false (count + 1) (⟨.separators, pieces ++ piecesOf false [char]⟩ :: found)
      | found => readStretches raw rest false (count + 1) (⟨.separators, piecesOf false [char]⟩ :: found)

/-- Reads a line of the standard input into variables. -/
def read : Builtin := fun _ words => do
  let (options, names) ← options [('p', true), ('r', false)] words
  if names.isEmpty then fail (chars "arg count")
  let raw := options.any fun option => option.1 = 'r'
  let shell ← get
  let text := (shell.unread? 0).getD []
  let (stretches, count, ended) := readStretches raw text false 0 []
  modify (·.advanced 0 count)
  let fields := (divide shell.separators (some names.length) stretches).map textOf
  for (name, index) in names.zipIdx do
    -- A variable without a field is set to nothing.
    setVariable name ((fields[index]?).getD [])
  return if ended then 0 else 1

end ImageHeader.Shell
