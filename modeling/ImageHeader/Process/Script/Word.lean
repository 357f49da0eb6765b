import ImageHeader.Process.Script.Reader

/-! Words of scripts: how quotes, braces and dollar signs are read. -/

namespace ImageHeader.Script

/-- What surrounds the characters that are being read. -/
inductive Level where
  /-- Nothing. -/
  | bare
  /-- Braces. -/
  | braced
  /-- Double quotes, which may stand within braces. -/
  | quoted (inBraces : Bool)
  /-- Braces within double quotes, and perhaps quotes of their own within these. -/
  | quotedBraced (inner : Bool)
  /-- An arithmetic expression, with a number of parentheses open. -/
  | arithmetic (depth : Nat)
  /-- A document. -/
  | document
  deriving DecidableEq, Repr

/-- Whether only a few characters keep their meaning. -/
def Level.isQuoting : Level → Bool
  | .bare | .braced => false
  | _ => true

/-- Whether a closing brace ends something here. -/
def Level.isInBraces : Level → Bool
  | .braced | .quoted true | .quotedBraced _ => true
  | _ => false

/-- What reading a word depends on. -/
structure Surroundings where
  /-- Reads a list of commands that may be empty. -/
  commands : Reading (Option Command)
  /-- Reads a list of commands up to its closing parenthesis. -/
  enclosed : Reading (Option Command)
  /-- Whether the word is the end mark of a document, in which only quotes have a meaning. -/
  inMark : Bool := false
  /-- Whether the word is a document. -/
  inDocument : Bool := false
  /-- The document that ends at a mark. -/
  document : Option Announcement := none

/-- Whether a character ends a word. -/
def endsWord (char : Char) : Bool :=
  " \t\n;&|<>()".toList.contains char

/-- Gives up at the end of the script. -/
def endEarly (inDocument : Bool) : Level → Reading (List Part)
  | .braced => flaw "Missing '\x7d'"
  | .quoted _ | .quotedBraced _ =>
    flaw (if inDocument then "Missing '\x7d'" else "Unterminated quoted string")
  | .arithmetic _ => flaw "Missing '))'"
  | .bare | .document => return []

/-- Passes over the tabs that a document loses at the beginning of a line, and over the line if it is the end mark;
tells whether it is. -/
def takeMark (surroundings : Surroundings) : Reading Bool := do
  match surroundings.document with
  | none => return false
  | some announcement =>
    let _ ← peek
    let reader ← get
    -- The tabs go from every line, whether it turns out to be the mark or not.
    let rest := if announcement.indented then reader.rest.dropWhile (· = '\t') else reader.rest
    let (first, after) := rest.span (· ≠ '\n')
    if first = announcement.mark then
      set { reader with rest := after.tail, line := if after = [] then reader.line else reader.line + 1 }
      return true
    set { reader with rest := rest }
    return false

/-- Whether a backslash quotes a character at a level. -/
def isEscapable (inDocument : Bool) (level : Level) (char : Char) : Bool :=
  -- Without quotes a backslash quotes anything; within them only what would have a meaning there.
  !level.isQuoting || char = '\\' || char = '$' || char = '\x60' ||
    (char = '"' && (!inDocument || level.isInBraces)) || (char = '\x7d' && level.isInBraces)

/-- Reads the characters after a backslash, last first. -/
def readEscape (inDocument : Bool) (level : Level) : Reading (List Part) := do
  match ← readRaw with
  | none => return [.char '\\' true]
  | some char =>
    if isEscapable inDocument level char then return [.char char true]
    return [.char char true, .char '\\' true]

/-- Reads what stands in single quotes, after the first of them. -/
def readLiteral : Reading (List Part) := do
  let reader ← get
  match reader.rest.span (· ≠ '\'') with
  -- Not even a backslash has a meaning here, so the next mark ends it.
  | (text, _ :: rest) =>
    modify fun reader => { reader with rest := rest, line := reader.line + text.count '\n' }
    return text.map (Part.char · true)
  | (text, []) =>
    modify fun reader => { reader with rest := [], line := reader.line + text.count '\n' }
    flaw "Unterminated quoted string"

/-- Reads the script between backquotes, after the first of them. -/
def readBackquoted (quoting : Bool) : Nat → List Char → Reading (List Char)
  | 0, _ => flaw "EOF in backquote substitution"
  | fuel + 1, found => do
    match ← peek with
    | none => flaw "EOF in backquote substitution"
    | some '\x60' =>
      skip
      return found.reverse
    | some '\n' =>
      skipLineEnd
      readBackquoted quoting fuel ('\n' :: found)
    | some '\\' =>
      skip
      match ← readRaw with
      | none => flaw "EOF in backquote substitution"
      | some char =>
        -- One backslash is taken off here and a second one when the script itself is read.
        if char = '\\' || char = '\x60' || char = '$' || (quoting && char = '"') then
          readBackquoted quoting fuel (char :: found)
        else readBackquoted quoting fuel (char :: '\\' :: found)
    | some char =>
      skip
      readBackquoted quoting fuel (char :: found)

/-- Reads a script from its own first line on; nothing of it is left over. -/
def readApart (chars : List Char) (commands : Reading (Option Command)) : Reading (Option Command) := do
  let outer ← get
  modify fun reader => { reader with rest := chars, line := 1, announced := [], running := [] }
  let body ← commands
  modify fun reader =>
    { reader with
      rest := outer.rest
      line := outer.line
      returned := false
      announced := outer.announced
      running := outer.running }
  return body

/-- Quotation marks around parts, last first; all arguments need none, for there may be no argument. -/
def addQuoted (inDocument : Bool) (inner found : List Part) : List Part :=
  match inner with
  -- The marks would leave an empty field where there is no argument.
  | [.parameter .each .value true] => inner ++ found
  | _ => if inDocument then inner ++ found else .quote :: (inner ++ .quote :: found)

/-- How a parameter in braces goes on after its name. -/
inductive Suffix where
  | closed
  | malformed
  | length
  | guarded (role : Role) (refusesEmpty : Bool)
  | trimmed (front longest : Bool)
  deriving DecidableEq, Repr

/-- The role that a sign after a name announces. -/
def role? (char : Char) : Option Role :=
  match char with
  | '-' => some .fallback
  | '=' => some .assignment
  | '?' => some .demand
  | '+' => some .alternative
  | _ => none

/-- Reads the signs after the name of a parameter. -/
def readSuffix : Reading Suffix := do
  match ← peek with
  | none => return .malformed
  | some char =>
    skip
    match char with
    | '\x7d' => return .closed
    | ':' =>
      match ← peek with
      | none => return .malformed
      | some char =>
        skip
        return ((role? char).map (Suffix.guarded · true)).getD .malformed
    -- A doubled sign asks for the longest match.
    | '%' | '#' => return .trimmed (char = '#') (← skipOver char)
    | char => return ((role? char).map (Suffix.guarded · false)).getD .malformed

/-- Reads a name or a number, if there is one. -/
def readName? : Reading (Option Parameter) := do
  match ← peek with
  | none => return none
  | some char =>
    if opensName char then
      return some (.named (← readWhile continuesName ((← remaining) + 1) []))
    if char.isDigit then
      return some (.positional (decimal (← readWhile Char.isDigit ((← remaining) + 1) [])))
    return none

/-- Reads what stands in braces up to the word, if one follows: the parameter and what is done with it. -/
def readBraces : Reading (Parameter × Suffix) := do
  match ← readName? with
  | some parameter => return (parameter, ← readSuffix)
  | none =>
    match ← peek with
    | none | some '\x7d' => return (.named [], .malformed)
    | some '#' =>
      skip
      match ← readName? with
      | some parameter =>
        return (parameter, if (← peek) = some '\x7d' then .length else .malformed)
      | none =>
        -- A sign right before the closing brace is the parameter whose length is asked for.
        let after := (← get).rest
        skip
        match after.head?, ← peek with
        | none, _ => return (.count, .malformed)
        | some char, next =>
          if char = '\x7d' || next ≠ some '\x7d' then
            modify fun reader => { reader with rest := char :: reader.rest }
            return (.count, ← readSuffix)
          match special? char with
          | some parameter => return (parameter, .length)
          | none => return (.count, .malformed)
    | some char =>
      skip
      match special? char with
      | some parameter => return (parameter, ← readSuffix)
      | none => return (.named [], .malformed)

/-- The level of the word beside a parameter. -/
def Level.ofWord (level : Level) (suffix : Suffix) : Level :=
  match suffix with
  -- A pattern is read without quotes even when the parameter stands in them.
  | .trimmed .. => .braced
  | _ => if level.isQuoting then .quotedBraced false else .braced

/-- What is done with the value of a parameter, given the word beside it. -/
def Suffix.use (suffix : Suffix) (word : Word) : Use :=
  match suffix with
  | .closed => .value
  | .malformed => .malformed
  | .length => .length
  | .guarded role refusesEmpty => .guarded role refusesEmpty word
  | .trimmed front longest => .trimmed front longest word

/-- Whether the word beside a parameter is quoted when the parameter is. -/
def Suffix.keepsQuotes : Suffix → Bool
  | .guarded .fallback _ | .guarded .alternative _ => true
  | _ => false

mutual

/-- Reads parts up to the end of a level, last first; `fuel` bounds their number. -/
def readParts (surroundings : Surroundings) : Nat → Level → Bool → List Part → Reading (List Part)
  | 0, _, _, found => return found
  | fuel + 1, level, quoted, found => do
    let inDocument := surroundings.inDocument
    match ← peek with
    | none =>
      let none? ← endEarly inDocument level
      return none? ++ found
    | some char =>
      -- What ends the level comes first, then what opens another one, then what has a meaning at every level.
      match level, char with
      | .braced, '\x7d' | .quotedBraced false, '\x7d' | .quoted _, '"' | .quotedBraced true, '"' =>
        skip
        return found
      | .bare, '"' | .braced, '"' | .quotedBraced false, '"' =>
        skip
        let inside : Level :=
          match level with
          | .quotedBraced _ => .quotedBraced true
          | level => .quoted (decide (level = .braced))
        let inner ← readParts surroundings fuel inside true []
        readParts surroundings fuel level quoted (addQuoted inDocument inner found)
      | .bare, '\'' | .braced, '\'' =>
        skip
        let inner ← readLiteral
        readParts surroundings fuel level quoted (addQuoted inDocument inner.reverse found)
      | .arithmetic depth, '(' =>
        skip
        readParts surroundings fuel (.arithmetic (depth + 1)) quoted (.char '(' true :: found)
      | .arithmetic (depth + 1), ')' =>
        skip
        readParts surroundings fuel (.arithmetic depth) quoted (.char ')' true :: found)
      -- Only a second one right behind it closes the expression.
      | .arithmetic 0, ')' =>
        skip
        if ← skipOver ')' then return found
        readParts surroundings fuel level quoted (.char ')' true :: found)
      | _, '\n' =>
        -- Outside quotes the line end belongs to whoever reads tokens.
        if level = .bare then return found
        skipLineEnd
        let found := .char '\n' level.isQuoting :: found
        if ← takeMark surroundings then
          let none? ← endEarly inDocument level
          return none? ++ found
        readParts surroundings fuel level quoted found
      | _, '\\' =>
        skip
        let escaped ← readEscape inDocument level
        readParts surroundings fuel level quoted (escaped ++ found)
      | _, '$' =>
        skip
        let part ← readDollar surroundings fuel level quoted
        readParts surroundings fuel level quoted (part :: found)
      | _, '\x60' =>
        skip
        if surroundings.inMark then
          readParts surroundings fuel level quoted (.char '\x60' true :: found)
        else
          let chars ← readBackquoted level.isQuoting ((← remaining) + 1) []
          let body ← readApart chars surroundings.commands
          readParts surroundings fuel level quoted (.output body quoted :: found)
      | _, char =>
        -- The character is left as the next token.
        if level = .bare && endsWord char then return found
        skip
        readParts surroundings fuel level quoted (.char char level.isQuoting :: found)

/-- Reads what follows a dollar sign; one that asks for nothing stands for itself. -/
def readDollar (surroundings : Surroundings) : Nat → Level → Bool → Reading Part
  | 0, level, _ => return .char '$' level.isQuoting
  | fuel + 1, level, quoted => do
    let next ← peek
    if surroundings.inMark then return .char '$' level.isQuoting
    match next with
    | some '(' =>
      skip
      -- Two parentheses hold an expression, one holds a script.
      if ← skipOver '(' then
        let expression ← readParts surroundings fuel (.arithmetic 0) false []
        return .arithmetic expression.reverse quoted
      return .output (← surroundings.enclosed) quoted
    | some '\x7b' =>
      skip
      let (parameter, suffix) ← readBraces
      if suffix = .closed then return .parameter parameter .value quoted
      let word ← readParts surroundings fuel (level.ofWord suffix) (quoted && suffix.keepsQuotes) []
      return .parameter parameter (suffix.use word.reverse) quoted
    | some char =>
      if opensName char then
        let name ← readWhile continuesName ((← remaining) + 1) []
        return .parameter (.named name) .value quoted
      -- What is no parameter leaves the sign as it is.
      match special? char with
      | some parameter =>
        skip
        return .parameter parameter .value quoted
      | none => return .char '$' level.isQuoting
    | none => return .char '$' level.isQuoting

end

end ImageHeader.Script
