import ImageHeader.Process.Script.Word

/-! Tokens of scripts: words, the signs between them, and the documents that lines announce. -/

namespace ImageHeader.Script

/-- What is looked for when a token is read. -/
structure Checks where
  /-- Words that are reserved. -/
  reserved : Bool := false
  /-- Line ends, which are passed over. -/
  lineEnds : Bool := false
  /-- Names that stand for other text. -/
  aliases : Bool := false
  /-- The end mark of a document. -/
  mark : Bool := false

/-- All that is looked for where a command may begin, after any number of line ends. -/
def Checks.ofCommand : Checks where
  reserved := true
  lineEnds := true
  aliases := true

/-- The text after blanks and comments, and the line on which it begins. -/
def skipBlanks : List Char → Nat → Bool → List Char × Nat
  | [], line, _ => ([], line)
  | char :: rest, line, true =>
    -- A comment goes up to the end of its line, which is a token of its own; a backslash hides nothing in it.
    if char = '\n' then (char :: rest, line) else skipBlanks rest line true
  | '\\' :: '\n' :: rest, line, false => skipBlanks rest (line + 1) false
  | char :: rest, line, false =>
    if char = ' ' ∨ char = '\t' then skipBlanks rest line false
    else if char = '#' then skipBlanks rest line true
    else (char :: rest, line)

/-- Reads a sign that may be doubled. -/
def readDoubled (sign : Char) (single double : Token) : Reading Token := do
  skip
  return if ← skipOver sign then double else single

/-- Reads a sign other than an angle bracket, if there is one. -/
def readSign? : Reading (Option Token) := do
  match ← peek with
  | none => return some .finish
  | some '\n' =>
    skipLineEnd
    return some .lineEnd
  | some '&' => return some (← readDoubled '&' .background .both)
  | some '|' => return some (← readDoubled '|' .pipe .either)
  | some ';' => return some (← readDoubled ';' .semicolon .armEnd)
  | some '(' =>
    skip
    return some .opening
  | some ')' =>
    skip
    return some .closing
  | some _ => return none

/-- Reads what follows an angle bracket. -/
def readRedirector (outward : Bool) : Reading Redirector := do
  -- Two signs mean more than one, so they are looked for first.
  if outward then
    if ← skipOver '>' then return .file .append
    if ← skipOver '|' then return .file .overwrite
    if ← skipOver '&' then return .copy
    return .file .write
  if ← skipOver '<' then return .document (← skipOver '-')
  if ← skipOver '&' then return .copy
  if ← skipOver '>' then return .file .update
  return .file .read

/-- Reads a word, or a redirection together with the digit in front of it. -/
def readWordToken (surroundings : Surroundings) : Reading Token := do
  let parts ← readParts surroundings ((← remaining) * 2 + 4) .bare false []
  let word := parts.reverse
  modify fun reader => { reader with word := word }
  let next ← peek
  if next = some '<' || next = some '>' then
    let outward := decide (next = some '>')
    -- A single digit right before the bracket is no word but the stream that is meant.
    match bareText? word with
    | some [] =>
      skip
      return .redirection (if outward then 1 else 0) (← readRedirector outward)
    | some [digit] =>
      if digit.isDigit then
        skip
        return .redirection (decimal [digit]) (← readRedirector outward)
      return .word
    | _ => return .word
  return .word

/-- Reads a token as it stands in the text, unless the last one is to be read again. -/
def scanToken (surroundings : Surroundings) : Reading Token := do
  let reader ← get
  if reader.returned then
    modify fun reader => { reader with returned := false }
    return reader.token
  let (rest, line) := skipBlanks reader.rest reader.line false
  modify fun reader => { reader with rest := rest, line := line }
  match ← readSign? with
  | some token => return token
  | none => readWordToken surroundings

/-- Splits off the first line, and tells whether it has an end. -/
def splitLine (chars : List Char) : List Char × List Char × Bool :=
  match chars.span (· ≠ '\n') with
  | (line, _ :: rest) => (line, rest, true)
  | (line, []) => (line, [], false)

/-- The text of a document whose characters all stand for themselves, the text after its end mark, and the number of
lines that were read. -/
def splitDocument (announcement : Announcement) : Nat → List Char → Nat → List Char →
    List Char × List Char × Nat
  | 0, chars, lines, found => (found.reverse, chars, lines)
  | fuel + 1, chars, lines, found =>
    let chars := if announcement.indented then chars.dropWhile (· = '\t') else chars
    let (line, rest, ended) := splitLine chars
    let lines := if ended then lines + 1 else lines
    -- The mark counts even at the end of the script, where no line end follows.
    if line = announcement.mark then (found.reverse, rest, lines)
    else if ended then splitDocument announcement fuel rest lines ('\n' :: (line.reverse ++ found))
    else ((line.reverse ++ found).reverse, rest, lines)

/-- Reads a document. -/
def readDocument (surroundings : Surroundings) (announcement : Announcement) : Reading Word := do
  -- A quoted mark keeps everything as it is; otherwise the document is read like a text in quotes.
  if announcement.literal then
    let reader ← get
    let (text, rest, lines) := splitDocument announcement (reader.rest.length + 1) reader.rest 0 []
    set { reader with rest := rest, line := reader.line + lines }
    return text.map (Part.char · true)
  let surroundings := { surroundings with inDocument := true, inMark := false, document := some announcement }
  if ← takeMark surroundings then return []
  let parts ← readParts surroundings ((← remaining) * 2 + 4) .document true []
  return parts.reverse

/-- Reads the documents that have been announced. -/
def readDocuments (surroundings : Surroundings) : Reading Unit := do
  let announced := (← get).announced
  modify fun reader => { reader with announced := [] }
  for announcement in announced do
    let word ← readDocument surroundings announcement
    modify fun reader =>
      { reader with documents := reader.documents.setIfInBounds announcement.number word }

/-- The name whose other text comes next instead of a word, unless that text is being read. -/
def alias? (reader : Reader) : Option Alias :=
  (bareText? reader.word).bind fun name =>
    (reader.aliases.find? fun known => known.1 = name).bind fun known =>
      if reader.running.any fun (other, after) => other.1 = name && after ≤ reader.rest.length then none
      else some known

/-- Whether a text of an alias that ends with a blank was left between two places. -/
def leavesBlank (running : List (Alias × Nat)) (before after : Nat) : Bool :=
  running.any fun ((_, text), rest) =>
    rest ≤ before && after < rest && text.getLast?.any fun char => char = ' ' || char = '\t'

/-- Reads the next token; `fuel` bounds the line ends and names that are passed over. -/
def nextToken (surroundings : Surroundings) : Nat → Checks → Reading Token
  | 0, _ => unexpected none
  | fuel + 1, checks => do
    let before ← get
    let token ← scanToken { surroundings with inMark := checks.mark }
    if checks.lineEnds && token = .lineEnd then
      readDocuments surroundings
      nextToken surroundings fuel checks
    else
      let reader ← get
      -- A text that ends with a blank lets the next word stand for other text as well.
      let checks :=
        { checks with
          aliases := checks.aliases || leavesBlank reader.running before.rest.length reader.rest.length }
      let reserved? := if token = .word && checks.reserved then bareText? reader.word else none
      -- Reserved words come before names that stand for other text.
      match reserved?.bind fun text => reservedWords.find? fun name => name.toList = text with
      | some name =>
        modify fun reader => { reader with token := .reserved name }
        return .reserved name
      | none =>
        match if token = .word && checks.aliases then alias? reader else none with
        | some known =>
          modify fun reader =>
            { reader with
              rest := known.2 ++ reader.rest
              running := (known, reader.rest.length) :: reader.running }
          nextToken surroundings fuel checks
        | none =>
          modify fun reader => { reader with token := token }
          return token

/-- Reads the target of a redirection. -/
def readTarget (surroundings : Surroundings) (stream : Nat) (redirector : Redirector) :
    Reading Redirection := do
  let isDocument :=
    match redirector with
    | .document _ => true
    | _ => false
  if (← nextToken surroundings ((← remaining) + 2) { mark := isDocument }) ≠ .word then unexpected none
  let reader ← get
  match redirector with
  | .file access => return .file stream access reader.word
  | .copy =>
    match bareText? reader.word with
    | some ['-'] => return .copy stream none
    | some [digit] =>
      if digit.isDigit then return .copy stream (some (decimal [digit]))
      return .copyNamed stream reader.word
    | _ => return .copyNamed stream reader.word
  -- The text follows at the end of the line; until then its place is kept.
  | .document indented =>
    let number := reader.documents.size
    let announcement : Announcement :=
      { number := number
        mark := literalText reader.word
        indented := indented
        literal := (bareText? reader.word).isNone }
    modify fun reader =>
      { reader with
        announced := reader.announced ++ [announcement]
        documents := reader.documents.push [] }
    return .document stream number

end ImageHeader.Script
