import ImageHeader.Process.Shell.Arithmetic
import ImageHeader.Process.Shell.Field

/-! Expansion: what words become when a command is run. -/

namespace ImageHeader.Shell

open Script (Parameter Part Use Word Command)

/-- What a word is expanded for. -/
inductive Aim where
  /-- For fields, which fall apart and stand for paths. -/
  | fields
  /-- For a pattern. -/
  | pattern
  /-- For one text. -/
  | text
  /-- For the value of a variable, which may be a list of paths between colons. -/
  | value
  deriving DecidableEq, Repr

/-- Runs a script within a word and gives what it prints. -/
abbrev Capture := Command → Act (List Char)

/-- The home directory of a user, or of the user of the shell. -/
def homeOf? (shell : Shell) (user : List Char) : Option (List Char) :=
  if user = [] then shell.valueOf? (chars "HOME")
  else if user = chars "root" then some (chars "/root")
  else none

/-- The user whose home directory a word asks for after a tilde, and the parts that follow the name; none when
anything but plain characters stands in the name. -/
def user? (aim : Aim) (parts : List Part) : Option (List Char × List Part) :=
  let isInside (part : Part) : Bool :=
    match part with
    | .char char false => char ≠ '/' && (char ≠ ':' || aim ≠ .value)
    | _ => true
  let name := parts.takeWhile isInside
  (Script.bareText? name).map fun user => (user, parts.drop name.length)

/-- The parts of a word with home directories in place of tildes; `opens` tells whether one may stand here. -/
def withHomes (shell : Shell) (aim : Aim) : Nat → Bool → List Part → List Part
  | 0, _, parts => parts
  | _, _, [] => []
  | fuel + 1, opens, part :: rest =>
    match part with
    | .char '~' false =>
      match if opens then user? aim rest else none with
      | none => part :: shell.withHomes aim fuel false rest
      | some (user, after) =>
        match shell.homeOf? user with
        | none => part :: shell.withHomes aim fuel false rest
        -- The directory neither falls apart nor acts as a pattern.
        | some home => home.map (Part.char · true) ++ shell.withHomes aim fuel false after
    -- In a value a colon begins another path, which may have a tilde of its own.
    | .char ':' false => part :: shell.withHomes aim fuel (decide (aim = .value)) rest
    | _ => part :: shell.withHomes aim fuel false rest

/-- What keeps the arguments of the shell apart when they are asked for together. -/
def argumentMark (shell : Shell) (split : Bool) : List Char :=
  match shell.valueOf? (chars "IFS") with
  -- An unset variable counts as blanks, an empty one joins without anything.
  | none => [' ']
  | some separators => if split then [gap] else separators.take 1

/-- The value of a parameter, if it has one. -/
def parameterValue? (shell : Shell) (aim : Aim) (quoted : Bool) : Parameter → Option (List Char)
  | .positional 0 => some shell.title
  | .positional (index + 1) => shell.arguments[index]?
  | .count => some (chars (toString shell.arguments.length))
  | .each =>
    let apart := quoted && aim = .fields
    let mark := if apart then [gap] else shell.argumentMark (!quoted && aim = .fields)
    some (mark.intercalate shell.arguments)
  | .joined => some ((shell.argumentMark (!quoted && aim = .fields)).intercalate shell.arguments)
  | .lastStatus => some (chars (toString shell.status))
  | .process => some (chars (toString shell.leader))
  | .backgroundProcess => shell.jobs.head?.map fun job => chars (toString job.1)
  | .settings => some shell.settingText
  | .named name => shell.valueOf? name

/-- The stretch of a value. -/
def stretchOf (division : Division) (quoted : Bool) (value : List Char) : Stretch :=
  ⟨if quoted then .nowhere else division, piecesOf (!quoted) value⟩

/-- The stretch of a parameter's value: quoted arguments stay apart from each other. -/
def parameterStretch (shell : Shell) (aim : Aim) (parameter : Parameter) (quoted : Bool) (value : List Char) :
    Stretch :=
  if quoted && parameter = .each && aim = .fields && !shell.arguments.isEmpty then
    ⟨.arguments, piecesOf false value⟩
  else stretchOf .separators quoted value

/-- The pieces of stretches. -/
def piecesIn (stretches : List Stretch) : List Piece := stretches.flatMap Stretch.pieces

/-- Complains about a parameter without a value. -/
def failMissing {α : Type} (parameter : Parameter) (text : List Char) : Act α :=
  fail (parameter.spelling ++ chars ": " ++ text)

mutual

/-- Expands the parts of a word; `inWord` tells that it stands beside a parameter, where even plain characters may
separate fields. -/
def expandParts (capture : Capture) : Nat → Aim → Bool → List Part → Act (List Stretch)
  | 0, _, _, _ => throw (.killed 11)
  | fuel + 1, aim, inWord, parts => do
    let shell ← get
    let mut found : Array Stretch := #[]
    for part in shell.withHomes aim (parts.length + 1) true parts do
      found := found ++ (← expandPart capture fuel aim inWord part)
    return found.toList

/-- Expands a part of a word. -/
def expandPart (capture : Capture) : Nat → Aim → Bool → Part → Act (List Stretch)
  | 0, _, _, _ => throw (.killed 11)
  | fuel + 1, aim, inWord, part =>
    match part with
    | .char char quoted =>
      return [⟨if inWord && !quoted then .literal else .nowhere, piecesOf (!quoted) [char]⟩]
    | .quote => return [⟨.nowhere, [.quote]⟩]
    | .parameter parameter use quoted => expandUse capture fuel aim parameter use quoted
    | .arithmetic expression quoted => do
      let stretches ← expandParts capture fuel .text false expression
      let value ← evaluate (textOf (piecesIn stretches))
      return [stretchOf .separators quoted (chars (toString value))]
    | .output none quoted => return [stretchOf .separators quoted []]
    | .output (some script) quoted => return [stretchOf .separators quoted (← capture script)]

/-- Expands what a word makes of a parameter. -/
def expandUse (capture : Capture) : Nat → Aim → Parameter → Use → Bool → Act (List Stretch)
  | 0, _, _, _, _ => throw (.killed 11)
  | fuel + 1, aim, parameter, use, quoted => do
    let shell ← get
    -- For their length, the arguments count as one text.
    let value? :=
      match use with
      | .length => shell.parameterValue? .text quoted parameter
      | _ => shell.parameterValue? aim quoted parameter
    let present (value : List Char) : Act (List Stretch) := do
      return [(← get).parameterStretch aim parameter quoted value]
    let lacking (otherwise : Act (List Stretch)) : Act (List Stretch) :=
      if shell.has 'u' then failMissing parameter (chars "parameter not set") else otherwise
    match use with
    | .malformed => fail (chars "Bad substitution")
    | .value =>
      match value? with
      | some value => present value
      | none => lacking (return [])
    | .length =>
      match value? with
      | some value => present (chars (toString value.length))
      | none => lacking (present ['0'])
    | .trimmed front longest pattern =>
      match value? with
      | some value => do
        let stretches ← expandParts capture fuel .pattern false pattern
        present (Pattern.trim (patternOf (piecesIn stretches)) front longest value)
      | none => lacking (return [])
    | .guarded role refusesEmpty word =>
      match role, value?.filter fun value => !refusesEmpty || value ≠ [] with
      -- The only role for which a value is replaced instead of its absence.
      | .alternative, some _ => expandParts capture fuel aim true word
      | .alternative, none => return []
      | _, some value => present value
      | .fallback, none => expandParts capture fuel aim true word
      | .assignment, none => do
        let stretches ← expandParts capture fuel .text false word
        assign parameter.spelling (some (textOf (piecesIn stretches))) id
        -- The value is asked for again, since the assignment may have changed what it is made of.
        match (← get).parameterValue? aim quoted parameter with
        | some value => present value
        | none => return []
      | .demand, none => do
        let stretches ← expandParts capture fuel .text false word
        let text :=
          if word.isEmpty then chars (if refusesEmpty then "parameter not set or null" else "parameter not set")
          else textOf (piecesIn stretches)
        failMissing parameter text

end

/-- Expands a word to one text. -/
def expandText (capture : Capture) (fuel : Nat) (aim : Aim) (word : Word) : Act (List Char) := do
  return textOf (piecesIn (← expandParts capture fuel aim false word))

/-- Expands a word to a pattern. -/
def expandPattern (capture : Capture) (fuel : Nat) (word : Word) : Act Pattern := do
  return patternOf (piecesIn (← expandParts capture fuel .pattern false word))

/-- Expands a word to fields: those that are patterns become the paths that they stand for, if there are any. -/
def expandFields (capture : Capture) (fuel : Nat) (word : Word) : Act (List (List Char)) := do
  let stretches ← expandParts capture fuel .fields false word
  let shell ← get
  return (divide shell.separators none stretches).flatMap fun field =>
    let paths := if shell.has 'f' then [] else (patternOf field).paths shell.tree shell.here
    -- A pattern that stands for no path stays as it is spelled.
    if paths = [] then [textOf field] else paths

/-- Expands the value that a word assigns, and gives the variable with it. -/
def expandAssignment (capture : Capture) (fuel : Nat) (word : Word) : Act (List Char × List Char) := do
  let name := (Script.assignedName? word).getD []
  return (name, ← expandText capture fuel .value (word.drop (name.length + 1)))

end ImageHeader.Shell
