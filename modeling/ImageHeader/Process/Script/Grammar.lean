import ImageHeader.Process.Script.Token

/-! The grammar of scripts: how tokens make up commands. -/

namespace ImageHeader.Script

/-- Which commands a list takes in. -/
inductive Extent where
  /-- Those up to the end of a line. -/
  | line
  /-- At least one. -/
  | body
  /-- Any number. -/
  | script
  deriving DecidableEq, Repr

/-- The commands whose names no function may have. -/
def specialNames : List String :=
  [".", ":", "break", "continue", "eval", "exec", "exit", "export", "local", "readonly", "return", "set", "shift",
    "times", "trap", "unset"]

/-- A command with redirections. -/
def Command.withRedirections (line : Nat) (redirections : List Redirection) (command : Command) : Command :=
  if redirections.isEmpty then command
  else
    match command with
    -- A copy of the shell makes its redirections itself, so nothing has to be undone after it.
    | .subshell line body _ => .subshell line body redirections
    | command => .redirected line command redirections

/-- A command that runs by itself while the script goes on. -/
def Command.inBackground : Command → Command
  | .pipeline commands _ => .pipeline commands true
  | .redirected _ command redirections => .background command redirections
  | command => .background command []

/-- The words of a loop that goes over the arguments of the script. -/
def allArguments : List Word := [[.parameter .each .value true]]

/-- Reads a closing token. -/
def expect (surroundings : Surroundings) (wanted : Token) (checks : Checks) : Reading Unit := do
  if (← nextToken surroundings ((← remaining) + 2) checks) ≠ wanted then unexpected (some wanted)

mutual

/-- What words are read with; `fuel` bounds the depth of scripts within them. -/
def surroundings : Nat → Surroundings
  | 0 => { commands := unexpected none, enclosed := unexpected none }
  | fuel + 1 =>
    { commands := readList fuel .script none
      enclosed := readEnclosed fuel }

/-- Reads a script in parentheses, after the first of them; documents that it still lacks are empty. -/
def readEnclosed : Nat → Reading (Option Command)
  | 0 => unexpected none
  | fuel + 1 => do
    -- Documents that are still due belong to the line outside and wait until the script is over.
    let announced := (← get).announced
    modify fun reader => { reader with announced := [] }
    let body ← readList fuel .script none
    expect (surroundings fuel) .closing {}
    modify fun reader => { reader with announced := announced }
    return body

/-- Reads the token after which the reader goes on. -/
def readNext : Nat → Checks → Reading Token
  | 0, _ => unexpected none
  | fuel + 1, checks => do
    nextToken (surroundings fuel) ((← remaining) + 2) checks

/-- Reads commands that follow each other, after those that were found. -/
def readList : Nat → Extent → Option Command → Reading (Option Command)
  | 0, _, _ => unexpected none
  | fuel + 1, extent, found => do
    let inLine := decide (extent = .line)
    let finishList : Reading (Option Command) := do
      readDocuments (surroundings fuel)
      putBack
      return found
    match ← readNext fuel { Checks.ofCommand with lineEnds := !inLine } with
    | .lineEnd =>
      readDocuments (surroundings fuel)
      return found
    | .finish => finishList
    | token =>
      putBack
      -- A token that closes something belongs to the caller, unless a body would have no command at all.
      if !inLine && (extent = .script || found.isSome) && token.endsList then return found
      let command ← readJoined fuel {}
      let after ← readNext fuel {}
      let command := if after = .background then command.inBackground else command
      let found := some ((found.map (Command.sequence · command)).getD command)
      match after with
      | .finish =>
        readDocuments (surroundings fuel)
        putBack
        return found
      -- The line end is read again as the beginning of the next round, which ends a line and passes over it elsewhere.
      | .lineEnd =>
        putBack
        readList fuel extent found
      | .background | .semicolon => readList fuel extent found
      | _ =>
        if inLine then unexpected none
        putBack
        return found

/-- Reads commands that are joined by success or failure, from the left. -/
def readJoined : Nat → Checks → Reading Command
  | 0, _ => unexpected none
  | fuel + 1, checks => do
    readJoins fuel (← readPipeline fuel checks)

/-- Reads what is joined to a command. -/
def readJoins : Nat → Command → Reading Command
  | 0, _ => unexpected none
  | fuel + 1, first => do
    match ← readNext fuel {} with
    | .both => readJoins fuel (.both first (← readPipeline fuel .ofCommand))
    | .either => readJoins fuel (.either first (← readPipeline fuel .ofCommand))
    | _ =>
      putBack
      return first

/-- Reads commands that pass their output on, perhaps with the verdict turned around. -/
def readPipeline : Nat → Checks → Reading Command
  | 0, _ => unexpected none
  | fuel + 1, checks => do
    -- The sign turns the whole pipeline around and not its first command.
    let negated := decide ((← readNext fuel checks) = .reserved "!")
    let first ←
      if negated then readCommand fuel { reserved := true, aliases := true }
      else do
        putBack
        readCommand fuel {}
    let commands ← readPiped fuel [first]
    let command : Command :=
      match commands with
      | [_] => first
      | _ => .pipeline commands.reverse false
    return if negated then .negation command else command

/-- Reads the commands behind pipes, last first. -/
def readPiped : Nat → List Command → Reading (List Command)
  | 0, _ => unexpected none
  | fuel + 1, found => do
    match ← readNext fuel {} with
    | .pipe => readPiped fuel ((← readCommand fuel .ofCommand) :: found)
    | _ =>
      putBack
      return found

/-- Reads a list of commands of which there is at least one. -/
def readBody : Nat → Reading Command
  | 0 => unexpected none
  | fuel + 1 => do
    match ← readList fuel .body none with
    | some command => return command
    | none => return .simple 0 [] [] []

/-- Reads a command. -/
def readCommand : Nat → Checks → Reading Command
  | 0, _ => unexpected none
  | fuel + 1, checks => do
    let line := (← get).line
    match ← readNext fuel checks with
    -- No reserved word opens it, so it is made of words.
    | .word | .redirection .. =>
      putBack
      readSimple fuel
    | .reserved "if" =>
      let command ← readBranch fuel
      readClosed fuel line command (.reserved "fi")
    | .reserved "while" => readLoop fuel line true
    | .reserved "until" => readLoop fuel line false
    | .reserved "for" => readEach fuel line
    | .reserved "case" => readChoice fuel line
    | .opening =>
      let body ← readBody fuel
      readClosed fuel line (.subshell line body []) .closing
    | .reserved "\x7b" =>
      let body ← readBody fuel
      readClosed fuel line body (.reserved "\x7d")
    | _ => unexpected none

/-- Reads the token that closes a command, and the redirections after it. -/
def readClosed : Nat → Nat → Command → Token → Reading Command
  | 0, _, _, _ => unexpected none
  | fuel + 1, line, command, wanted => do
    if (← readNext fuel {}) ≠ wanted then unexpected (some wanted)
    readSent fuel line command []

/-- Reads the redirections after a command, of which some were found, last first; a reserved word may stand right after
the command only. -/
def readSent : Nat → Nat → Command → List Redirection → Reading Command
  | 0, _, _, _ => unexpected none
  | fuel + 1, line, command, found => do
    match ← readNext fuel { reserved := found.isEmpty, aliases := found.isEmpty } with
    | .redirection stream redirector =>
      let redirection ← readTarget (surroundings fuel) stream redirector
      readSent fuel line command (redirection :: found)
    -- The first token that is no redirection belongs to whatever comes after the command.
    | _ =>
      putBack
      return command.withRedirections line found.reverse

/-- Reads a condition, what follows it, and the other branches. -/
def readBranch : Nat → Reading Command
  | 0 => unexpected none
  | fuel + 1 => do
    let condition ← readBody fuel
    if (← readNext fuel {}) ≠ .reserved "then" then unexpected (some (.reserved "then"))
    let body ← readBody fuel
    match ← readNext fuel {} with
    -- A further branch is a branch in the place of the other one, and shares its closing word.
    | .reserved "elif" => return .branch condition body (some (← readBranch fuel))
    | .reserved "else" => return .branch condition body (some (← readBody fuel))
    | _ =>
      putBack
      return .branch condition body none

/-- Reads a condition and the body that it repeats. -/
def readLoop : Nat → Nat → Bool → Reading Command
  | 0, _, _ => unexpected none
  | fuel + 1, line, succeeding => do
    let condition ← readBody fuel
    if (← readNext fuel {}) ≠ .reserved "do" then unexpected (some (.reserved "do"))
    let body ← readBody fuel
    readClosed fuel line (.loop succeeding condition body) (.reserved "done")

/-- Reads a variable, the words that it goes through, and the body that they are used in. -/
def readEach : Nat → Nat → Reading Command
  | 0, _ => unexpected none
  | fuel + 1, line => do
    let token ← readNext fuel {}
    let name := ((bareText? (← get).word).filter isName).getD []
    if token ≠ .word || name = [] then flaw "Bad for loop variable"
    let words ←
      match ← readNext fuel .ofCommand with
      | .reserved "in" =>
        let words ← readItems fuel []
        let last := (← get).token
        if last ≠ .lineEnd && last ≠ .semicolon then unexpected none
        pure words
      -- Without words of its own a loop goes over the arguments.
      | token =>
        if token ≠ .semicolon then putBack
        pure allArguments
    if (← readNext fuel .ofCommand) ≠ .reserved "do" then unexpected (some (.reserved "do"))
    let body ← readBody fuel
    readClosed fuel line (.each line name words body) (.reserved "done")

/-- Reads words up to the first other token. -/
def readItems : Nat → List Word → Reading (List Word)
  | 0, _ => unexpected none
  | fuel + 1, found => do
    if (← readNext fuel {}) = .word then readItems fuel ((← get).word :: found)
    else return found.reverse

/-- Reads a word and the arms of which one is chosen for it. -/
def readChoice : Nat → Nat → Reading Command
  | 0, _ => unexpected none
  | fuel + 1, line => do
    if (← readNext fuel {}) ≠ .word then unexpected (some .word)
    let word := (← get).word
    if (← readNext fuel .ofCommand) ≠ .reserved "in" then unexpected (some (.reserved "in"))
    let arms ← readArms fuel []
    readSent fuel line (.choice line word arms) []

/-- Reads the arms of a choice up to its end. -/
def readArms : Nat → List (List Word × Option Command) → Reading (List (List Word × Option Command))
  | 0, _ => unexpected none
  | fuel + 1, found => do
    let token ← readNext fuel { reserved := true, lineEnds := true }
    if token = .reserved "esac" then return found.reverse
    -- A parenthesis before the patterns is allowed and says nothing.
    if token = .opening then
      let _ ← readNext fuel {}
    let patterns ← readPatterns fuel []
    let body ← readList fuel .script none
    let found := (patterns, body) :: found
    match ← readNext fuel { reserved := true, lineEnds := true } with
    | .reserved "esac" => return found.reverse
    | .armEnd => readArms fuel found
    | _ => unexpected (some .armEnd)

/-- Reads the patterns of an arm, of which the first is the last word that was read. -/
def readPatterns : Nat → List Word → Reading (List Word)
  | 0, _ => unexpected none
  | fuel + 1, found => do
    let found := (← get).word :: found
    match ← readNext fuel {} with
    | .pipe =>
      let _ ← readNext fuel {}
      readPatterns fuel found
    | .closing => return found.reverse
    | _ => unexpected (some .closing)

/-- Reads a command of words, or the definition of a function. -/
def readSimple : Nat → Reading Command
  | 0 => unexpected none
  | fuel + 1 => do
    readWords fuel (← get).line [] [] []

/-- Reads assignments, words and redirections after those that were found, last first. -/
def readWords : Nat → Nat → List Word → List Word → List Redirection → Reading Command
  | 0, _, _, _, _ => unexpected none
  | fuel + 1, line, assignments, words, redirections => do
    match ← readNext fuel { aliases := words.isEmpty } with
    | .word =>
      let word := (← get).word
      -- Assignments stand in front only; behind the name of a command they are words.
      if words.isEmpty && (assignedName? word).isSome then
        readWords fuel line (word :: assignments) words redirections
      else readWords fuel line assignments (word :: words) redirections
    | .redirection stream redirector =>
      let redirection ← readTarget (surroundings fuel) stream redirector
      readWords fuel line assignments words (redirection :: redirections)
    | token =>
      match token, assignments, words, redirections with
      -- One word and parentheses: a function is being defined.
      | .opening, [], [word], [] =>
        if (← readNext fuel {}) ≠ .closing then unexpected (some .closing)
        match (bareText? word).filter isName with
        | some name =>
          if specialNames.contains (String.ofList name) then flaw "Bad function name"
          return .function name (← readCommand fuel .ofCommand)
        | none => flaw "Bad function name"
      | _, _, _, _ =>
        putBack
        return .simple line assignments.reverse words.reverse redirections.reverse

end

/-- A bound on the depth of reading a script of some length. -/
def readingDepth (length : Nat) : Nat := length * 16 + 64

/-- Reads the commands of one line, with the lines that they go on to; a blank line has none. -/
def readLine : Reading (Option Command) := do
  readList (readingDepth (← remaining)) .line none

end ImageHeader.Script
