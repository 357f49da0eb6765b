import ImageHeader.Text.Utf8

/-! Command scripts: the words, redirections and commands that they are made of. -/

namespace ImageHeader

namespace Script

/-- A value that the shell keeps and a word can ask for. -/
inductive Parameter where
  /-- The name of the script, or one of its arguments. -/
  | positional (index : Nat)
  | count
  /-- All arguments, each by itself. -/
  | each
  /-- All arguments, joined to one text. -/
  | joined
  | lastStatus
  | process
  | backgroundProcess
  | settings
  | named (name : List Char)
  deriving DecidableEq, Repr

/-- What the word beside a parameter is for. -/
inductive Role where
  /-- It takes the place of a missing value. -/
  | fallback
  /-- It takes the place of a missing value, and the parameter is set to it. -/
  | assignment
  /-- It says what is wrong with a missing value. -/
  | demand
  /-- It takes the place of a value that is there. -/
  | alternative
  deriving DecidableEq, Repr

/-- What is done with a file that a redirection names. -/
inductive Access where
  | read
  | write
  /-- As `write`, even where files that are there are protected. -/
  | overwrite
  | append
  | update
  deriving DecidableEq, Repr

mutual

/-- A part of a word. -/
inductive Part where
  /-- A character that stands for itself; without quotes it may belong to a pattern. -/
  | char (char : Char) (quoted : Bool)
  /-- The place of a quotation mark: a field is there even when nothing stands between the marks. -/
  | quote
  | parameter (parameter : Parameter) (use : Use) (quoted : Bool)
  /-- The value of an arithmetic expression. -/
  | arithmetic (expression : List Part) (quoted : Bool)
  /-- What a script prints. -/
  | output (script : Option Command) (quoted : Bool)

/-- What a word makes of the value of a parameter. -/
inductive Use where
  | value
  | length
  /-- Braces that ask for nothing. -/
  | malformed
  /-- A word that counts when there is a value, or when there is none; an empty value may count as none. -/
  | guarded (role : Role) (refusesEmpty : Bool) (word : List Part)
  /-- The value without the shortest or longest match of a pattern at one of its ends. -/
  | trimmed (front longest : Bool) (pattern : List Part)

/-- A redirection of a numbered stream. -/
inductive Redirection where
  | file (stream : Nat) (access : Access) (name : List Part)
  /-- The stream becomes a copy of another one, or is closed. -/
  | copy (stream : Nat) (source : Option Nat)
  /-- The stream becomes a copy of the one whose number a word gives. -/
  | copyNamed (stream : Nat) (source : List Part)
  /-- The stream reads a document that stands in the script itself. -/
  | document (stream number : Nat)

/-- A command. -/
inductive Command where
  /-- Assignments, then the name of a command and its arguments. -/
  | simple (line : Nat) (assignments words : List (List Part)) (redirections : List Redirection)
  | redirected (line : Nat) (command : Command) (redirections : List Redirection)
  | subshell (line : Nat) (body : Command) (redirections : List Redirection)
  | background (body : Command) (redirections : List Redirection)
  | pipeline (commands : List Command) (background : Bool)
  | negation (command : Command)
  | both (first second : Command)
  | either (first second : Command)
  | sequence (first second : Command)
  | branch (condition body : Command) (otherwise : Option Command)
  /-- A body that runs as long as a condition succeeds, or as long as it fails. -/
  | loop (succeeding : Bool) (condition body : Command)
  | each (line : Nat) (name : List Char) (words : List (List Part)) (body : Command)
  | choice (line : Nat) (word : List Part) (arms : List (List (List Part) × Option Command))
  | function (name : List Char) (body : Command)

end

/-- A word: parts that stand next to each other. -/
abbrev Word := List Part

/-- What keeps a script from being read. -/
structure Flaw where
  /-- The line up to which it was read. -/
  line : Nat
  /-- What is wrong, in words. -/
  text : String
  deriving DecidableEq, Repr

/-- The characters of a script, one for each byte. -/
def ofBytes (bytes : List UInt8) : List Char :=
  bytes.map fun byte => Char.ofNat byte.toNat

/-- The bytes of characters that stand for one byte each. -/
def toBytes (chars : List Char) : List UInt8 :=
  chars.map fun char => UInt8.ofNat char.toNat

/-- Whether one text is equal to another or comes before it, in the order of their characters. -/
def comesBefore (first second : List Char) : Bool :=
  !List.lex second first fun left right => decide (left.toNat < right.toNat)

/-- Whether a character may open a variable's name. -/
def opensName (char : Char) : Bool := char.isAlpha || char = '_'

/-- Whether a character may go on with a variable's name. -/
def continuesName (char : Char) : Bool := char.isAlphanum || char = '_'

/-- Whether characters form a variable's name. -/
def isName (chars : List Char) : Bool :=
  chars.head?.any opensName && chars.all continuesName

/-- The number that decimal digits spell. -/
def decimal (digits : List Char) : Nat :=
  digits.foldl (fun total digit => total * 10 + (digit.toNat - '0'.toNat)) 0

/-- The parameter that a single character asks for, if any. -/
def special? (char : Char) : Option Parameter :=
  -- Only one digit: further ones are text behind it.
  if char.isDigit then some (.positional (decimal [char]))
  else
    match char with
    | '#' => some .count
    | '@' => some .each
    | '*' => some .joined
    | '?' => some .lastStatus
    | '$' => some .process
    | '!' => some .backgroundProcess
    | '-' => some .settings
    | _ => none

/-- A parameter as a script spells it. -/
def Parameter.spelling : Parameter → List Char
  | .positional index => (toString index).toList
  | .count => ['#']
  | .each => ['@']
  | .joined => ['*']
  | .lastStatus => ['?']
  | .process => ['$']
  | .backgroundProcess => ['!']
  | .settings => ['-']
  | .named name => name

/-- The characters of a word that has neither quotes nor anything to put in place. -/
def bareText? (word : Word) : Option (List Char) :=
  word.mapM fun part =>
    match part with
    | .char char false => some char
    | _ => none

/-- The characters that stand for themselves in a word, quoted or not. -/
def literalText (word : Word) : List Char :=
  word.filterMap fun part =>
    match part with
    | .char char _ => some char
    | _ => none

/-- The variable that a word assigns, if it assigns one. -/
def assignedName? (word : Word) : Option (List Char) :=
  let name := word.takeWhile fun part =>
    match part with
    | .char char false => continuesName char
    | _ => false
  match word.drop name.length with
  -- A quote anywhere in the name makes a plain word of it.
  | .char '=' false :: _ => if isName (literalText name) then some (literalText name) else none
  | _ => none

end Script

end ImageHeader
