import ImageHeader.Process.Script

/-! Readers of scripts: the text that is left to read, and what was last read from it. -/

namespace ImageHeader.Script

/-- What the angle brackets of a redirection ask for. -/
inductive Redirector where
  | file (access : Access)
  | copy
  /-- A document in the script, whose lines may be indented by tabs. -/
  | document (indented : Bool)
  deriving DecidableEq, Repr

/-- A token of a script. -/
inductive Token where
  | finish
  | lineEnd
  | semicolon
  | background
  | both
  | either
  | pipe
  | opening
  | closing
  | armEnd
  /-- A word, which the reader holds. -/
  | word
  | redirection (stream : Nat) (redirector : Redirector)
  | reserved (name : String)
  deriving DecidableEq, Repr

/-- A token as messages show it. -/
def Token.shown : Token → String
  | .finish => "end of file"
  | .lineEnd => "newline"
  | .semicolon => "\";\""
  | .background => "\"&\""
  | .both => "\"&&\""
  | .either => "\"||\""
  | .pipe => "\"|\""
  | .opening => "\"(\""
  | .closing => "\")\""
  | .armEnd => "\";;\""
  | .word => "word"
  | .redirection .. => "redirection"
  | .reserved name => "\"" ++ name ++ "\""

/-- The words that have a meaning of their own where a command begins. -/
def reservedWords : List String :=
  ["!", "case", "do", "done", "elif", "else", "esac", "fi", "for", "if", "in", "then", "until",
    "while", "\x7b", "\x7d"]

/-- Whether a list of commands ends before a token. -/
def Token.endsList : Token → Bool
  | .finish | .closing | .armEnd => true
  | .reserved name => ["do", "done", "elif", "else", "esac", "fi", "then", "\x7d"].contains name
  | _ => false

/-- A document that has been announced and follows at the end of the line. -/
structure Announcement where
  /-- Its number. -/
  number : Nat
  /-- The line that ends it. -/
  mark : List Char
  /-- Whether its lines lose the tabs in front of them. -/
  indented : Bool
  /-- Whether all of its characters stand for themselves. -/
  literal : Bool
  deriving DecidableEq, Repr

/-- A name that stands for other text where a command begins. -/
abbrev Alias := List Char × List Char

/-- A script that is being read. -/
structure Reader where
  /-- The characters that are left. -/
  rest : List Char
  /-- The number of the line. -/
  line : Nat := 1
  /-- The last token. -/
  token : Token := .finish
  /-- Whether the last token is to be read again. -/
  returned : Bool := false
  /-- The last word. -/
  word : Word := []
  /-- The documents that are still to come. -/
  announced : List Announcement := []
  /-- The documents by their numbers. -/
  documents : Array Word := #[]
  /-- The names that stand for other text. -/
  aliases : List Alias := []
  /-- The names whose text is being read, each with the number of characters after its text. -/
  running : List (Alias × Nat) := []

/-- A step of reading a script. -/
abbrev Reading := StateT Reader (Except Flaw)

/-- Gives up reading. -/
def flaw {α : Type} (text : String) : Reading α := do
  throw ⟨(← get).line, text⟩

/-- The characters after line ends that a backslash hides, and the line on which they stand. -/
def joinLines : List Char → Nat → List Char × Nat
  | '\\' :: '\n' :: rest, line => joinLines rest (line + 1)
  | rest, line => (rest, line)

/-- The next character, if there is one; it stays unread. -/
def peek : Reading (Option Char) :=
  modifyGet fun reader =>
    -- Hidden line ends are dropped for good here, so no later reader meets them.
    let (rest, line) := joinLines reader.rest reader.line
    (rest.head?, { reader with rest := rest, line := line })

/-- Passes over a character. -/
def skip : Reading Unit :=
  modify fun reader => { reader with rest := reader.rest.tail }

/-- Passes over a line end. -/
def skipLineEnd : Reading Unit :=
  modify fun reader => { reader with rest := reader.rest.tail, line := reader.line + 1 }

/-- Passes over a wanted character, and tells whether it was there. -/
def skipOver (wanted : Char) : Reading Bool := do
  if (← peek) = some wanted then
    skip
    return true
  -- A character that was not wanted is left for the next reader.
  return false

/-- Reads the next character as it is, even a backslash before a line end. -/
def readRaw : Reading (Option Char) :=
  modifyGet fun reader => (reader.rest.head?, { reader with rest := reader.rest.tail })

/-- Reads characters as long as they satisfy a condition; `fuel` bounds their number. -/
def readWhile (condition : Char → Bool) : Nat → List Char → Reading (List Char)
  | 0, found => return found.reverse
  | fuel + 1, found => do
    match ← peek with
    | some char =>
      if condition char then
        skip
        readWhile condition fuel (char :: found)
      else return found.reverse
    | none => return found.reverse

/-- The number of characters that are left. -/
def remaining : Reading Nat := do
  return (← get).rest.length

/-- Has the last token read again. -/
def putBack : Reading Unit :=
  modify fun reader => { reader with returned := true }

/-- Gives up at the last token, which does not fit. -/
def unexpected {α : Type} (wanted : Option Token) : Reading α := do
  let wish := (wanted.map fun token => " (expecting " ++ token.shown ++ ")").getD ""
  flaw ((← get).token.shown ++ " unexpected" ++ wish)

end ImageHeader.Script
