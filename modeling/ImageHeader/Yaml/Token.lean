import ImageHeader.Yaml.Scalar

/-! Tokens of a YAML text: its marks, names, tags and scalars, with the starts and ends that indentation implies. -/

namespace ImageHeader.Yaml

/-- A token. -/
inductive Token where
  | version (major minor : Nat)
  | handle (name : List Char) (stem : List UInt8)
  | documentStart
  | documentEnd
  | streamEnd
  | blockSequence
  | blockMapping
  | blockEnd
  | flowSequence
  | flowSequenceEnd
  | flowMapping
  | flowMappingEnd
  | entry
  | comma
  | key
  | value
  | alias (name : List Char)
  | anchor (name : List Char)
  | tag (handle : List Char) (suffix : List UInt8)
  | scalar (text : List Char) (style : Style)
  deriving DecidableEq, Repr

/-- A place where a key may turn out to have begun. -/
structure KeyPlace where
  /-- Whether a key must have begun there. -/
  required : Bool
  /-- The number of tokens before it. -/
  number : Nat
  /-- The index of its first character. -/
  index : Nat
  /-- Its line. -/
  line : Nat
  /-- Its column. -/
  column : Nat
  deriving Repr

/-- A text that is being cut into tokens. -/
structure Lexer where
  /-- The place reached. -/
  cursor : Cursor
  /-- The tokens so far. -/
  tokens : Array Token
  /-- The indentation of the innermost block, or -1. -/
  indent : Int
  /-- The indentations around it, innermost first. -/
  outer : List Int
  /-- The possible key in the innermost flow collection or, at the end of the list, outside of all. -/
  keys : List (Option KeyPlace)
  /-- Whether a key may begin here. -/
  keyAllowed : Bool

namespace Lexer

/-- The lexer before the first character. -/
def start (chars : List Char) : Lexer :=
  ⟨.start chars, #[], -1, [], [none], true⟩

/-- Whether the place is within a flow collection. -/
def inFlow (lexer : Lexer) : Bool := 1 < lexer.keys.length

/-- Adds a token. -/
def push (lexer : Lexer) (token : Token) : Lexer :=
  { lexer with tokens := lexer.tokens.push token }

/-- Adds a token for some characters here. -/
def take (lexer : Lexer) (count : Nat) (token : Token) : Lexer :=
  { lexer.push token with cursor := lexer.cursor.forward count }

/-- Gives up the possible key of the innermost collection; one that is required must not be lost. -/
def dropKey? (lexer : Lexer) : Option Lexer :=
  match lexer.keys with
  -- A key that had to begin there and got no colon is an error, however the text goes on.
  | some place :: rest => if place.required then none else some { lexer with keys := none :: rest }
  | _ => some lexer

/-- Notes that a key may begin here. -/
def markKey? (lexer : Lexer) : Option Lexer :=
  if !lexer.keyAllowed then some lexer
  else do
    let lexer ← lexer.dropKey?
    let cursor := lexer.cursor
    let place : KeyPlace :=
      -- Something at the margin of a block mapping can only be the next key.
      { required := !lexer.inFlow && lexer.indent == Int.ofNat cursor.column
        number := lexer.tokens.size
        index := cursor.index
        line := cursor.line
        column := cursor.column }
    return { lexer with keys := some place :: lexer.keys.drop 1 }

/-- The greatest number of characters from the beginning of a key to its colon. -/
def keyLimit : Nat := 1024

/-- Gives up the possible keys that began on an earlier line or too far back. -/
def dropStaleKeys? (lexer : Lexer) : Option Lexer := do
  let cursor := lexer.cursor
  let stale (place : KeyPlace) : Bool :=
    -- A key is on one line with its colon, and not too far from it.
    place.line < cursor.line || place.index + keyLimit < cursor.index
  if lexer.keys.any fun key => key.any fun place => stale place && place.required then none
  else return { lexer with keys := lexer.keys.map fun key => key.filter fun place => !stale place }

/-- Ends the blocks that are indented further than a column. -/
def unroll (column : Int) (lexer : Lexer) : Lexer :=
  -- Indentation means nothing between brackets.
  if lexer.inFlow then lexer
  else
    let ended := (lexer.indent :: lexer.outer).takeWhile fun indent => column < indent
    match (lexer.indent :: lexer.outer).drop ended.length with
    | indent :: outer =>
      { lexer with
        tokens := lexer.tokens ++ (Array.replicate ended.length Token.blockEnd)
        indent := indent
        outer := outer }
    | [] => lexer

/-- Begins a block at a column, unless one is open there or beyond; its token goes to a place among the tokens. -/
def roll (column : Nat) (number : Nat) (token : Token) (lexer : Lexer) : Lexer :=
  if lexer.inFlow || Int.ofNat column ≤ lexer.indent then lexer
  else
    -- The token may belong before others: a mapping begins at its first key, which was read before the colon.
    { lexer with
      tokens := lexer.tokens.insertIdxIfInBounds number token
      indent := Int.ofNat column
      outer := lexer.indent :: lexer.outer }

/-- Passes over blanks, comments and line ends, and a byte order mark before them at the beginning of a line; a tab does
not count as a blank where a key may begin in a block. -/
def skipToToken : Nat → Lexer → Lexer
  | 0, lexer => lexer
  | fuel + 1, lexer =>
    let tabs := lexer.inFlow || !lexer.keyAllowed
    let marked := lexer.cursor.column = 0 ∧ lexer.cursor.sees 0 '\uFEFF'
    let cursor := if marked then lexer.cursor.forward 1 else lexer.cursor
    let cursor := cursor.skipWhile fun char => char = ' ' || (tabs && char = '\t')
    let cursor := if cursor.sees 0 '#' then cursor.skipWhile fun char => !isBreak char else cursor
    if cursor.onBreak then
      skipToToken fuel
        { lexer with
          cursor := cursor.takeBreak.2
          -- Every new line of a block may begin a key.
          keyAllowed := !lexer.inFlow || lexer.keyAllowed }
    else { lexer with cursor := cursor }

/-- Whether a character may stand in the name of a tag; a tag in angle brackets may hold more. -/
def isTagChar (bracketed : Bool) (char : Char) : Bool :=
  isWordChar char || ";/?:@&=+$.%!~*'()".toList.contains char ||
    (bracketed && ",[]".toList.contains char)

/-- The number of bytes of an encoded character, by its first byte. -/
def encodedWidth? (byte : Nat) : Option Nat :=
  if byte < 0x80 then some 1
  else if 0xC0 ≤ byte ∧ byte < 0xE0 then some 2
  else if 0xE0 ≤ byte ∧ byte < 0xF0 then some 3
  else if 0xF0 ≤ byte ∧ byte < 0xF8 then some 4
  else none

/-- The bytes of a tag's name; percent signs spell as many bytes as the first of them announces. -/
def tagBytes? : Nat → Nat → List Char → List UInt8 → Option (List UInt8)
  | 0, _, _, _ => none
  | fuel + 1, due, chars, found =>
    match chars with
    | '%' :: high :: low :: rest => do
      let high ← Hex.value? high
      let low ← Hex.value? low
      let byte := high * 16 + low
      -- The first byte of a character says how many follow, and only such bytes may.
      let due ←
        if due = 0 then (encodedWidth? byte).map (· - 1)
        else if 0x80 ≤ byte ∧ byte < 0xC0 then some (due - 1)
        else none
      tagBytes? fuel due rest (UInt8.ofNat byte :: found)
    | '%' :: _ => none
    | char :: rest =>
      if due = 0 then tagBytes? fuel 0 rest (UInt8.ofNat char.toNat :: found) else none
    | [] => if due = 0 then some found.reverse else none

/-- Reads the name of a tag that follows what was read of it before; a zero byte in it hides what comes after. -/
def readTagName? (bracketed : Bool) (before : List Char) (cursor : Cursor) :
    Option (List UInt8 × Cursor) := do
  let (chars, next) := cursor.takeWhile (isTagChar bracketed)
  if before.isEmpty && chars.isEmpty then none
  else
    let bytes ← tagBytes? (chars.length + 1) 0 chars []
    -- A handle that turned out to be part of the name gives all but its mark.
    let whole := (before.drop 1).map (fun char => UInt8.ofNat char.toNat) ++ bytes
    return (whole.takeWhile (· ≠ 0), next)

/-- Reads an exclamation mark with the word and the second mark that may follow it. -/
def readHandle? (cursor : Cursor) : Option (List Char × Cursor) :=
  if !cursor.sees 0 '!' then none
  else
    let (word, next) := (cursor.forward 1).takeWhile isWordChar
    if next.sees 0 '!' then some ('!' :: word ++ ['!'], next.forward 1) else some ('!' :: word, next)

/-- The bytes of a single exclamation mark. -/
def markBytes : List UInt8 := [0x21]

/-- Reads a tag in angle brackets, at its first sign. -/
def readBracketedTag? (cursor : Cursor) : Option (Token × Cursor) := do
  let (suffix, next) ← readTagName? true [] (cursor.forward 2)
  if next.sees 0 '>' then some (.tag [] suffix, next.forward 1) else none

/-- Reads a tag that is not in angle brackets: a name after a handle, a name of its own, or a lone mark. -/
def readNamedTag? (cursor : Cursor) : Option (Token × Cursor) := do
  let (handle, next) ← readHandle? cursor
  -- A second mark closes the handle; without it, the word is the beginning of the name.
  if 1 < handle.length ∧ handle.getLast? = some '!' then
    (readTagName? false [] next).map fun (suffix, next) => (.tag handle suffix, next)
  else
    let (suffix, next) ← readTagName? false handle next
    if suffix.isEmpty then some (.tag [] markBytes, next) else some (.tag ['!'] suffix, next)

/-- Reads a tag. -/
def readTag? (inFlow : Bool) (cursor : Cursor) : Option (Token × Cursor) := do
  let (token, next) ← if cursor.sees 1 '<' then readBracketedTag? cursor else readNamedTag? cursor
  if next.endsWordAt 0 || (inFlow && next.sees 0 ',') then some (token, next) else none

/-- Reads the name of an anchor or an alias after its sign. -/
def readAnchor? (cursor : Cursor) : Option (List Char × Cursor) :=
  let (name, next) := (cursor.forward 1).takeWhile isWordChar
  -- A name may also end at a sign that follows it without a blank.
  let closed := next.endsWordAt 0 || next.peek.any fun char => "?:,]\x7d%@`".toList.contains char
  if name.isEmpty || !closed then none else some (name, next)

/-- Reads a number of at most nine digits. -/
def readVersionNumber? (cursor : Cursor) : Option (Nat × Cursor) :=
  let (digits, next) := cursor.takeWhile Char.isDigit
  if digits.isEmpty || 9 < digits.length then none
  else some (digits.foldl (fun total digit => total * 10 + (digit.toNat - '0'.toNat)) 0, next)

/-- Reads the numbers of a version directive. -/
def readVersion? (cursor : Cursor) : Option (Token × Cursor) := do
  let (major, next) ← readVersionNumber? (cursor.skipWhile isBlank)
  if !next.sees 0 '.' then none
  else (readVersionNumber? (next.forward 1)).map fun (minor, next) => (.version major minor, next)

/-- Reads the handle and the stem of a tag directive. -/
def readTagDirective? (cursor : Cursor) : Option (Token × Cursor) := do
  let (handle, next) ← readHandle? (cursor.skipWhile isBlank)
  if !(handle.length = 1 || handle.getLast? = some '!') || !next.onBlank then none
  else
    let (stem, next) ← readTagName? true [] (next.skipWhile isBlank)
    if next.endsWordAt 0 then some (.handle handle stem, next) else none

/-- Reads a directive at its percent sign; only two are known. -/
def readDirective? (cursor : Cursor) : Option (Token × Cursor) := do
  let (name, next) := (cursor.forward 1).takeWhile isWordChar
  if name.isEmpty || !next.endsWordAt 0 then none
  else
    let (token, next) ←
      if name = "YAML".toList then readVersion? next
      else if name = "TAG".toList then readTagDirective? next
      else none
    -- A directive has its line for itself.
    let next ← next.skipLineRest?
    return (token, next)

/-- Whether a plain scalar may begin here. -/
def onPlain (lexer : Lexer) : Bool :=
  let cursor := lexer.cursor
  match cursor.peek with
  | none => false
  | some char =>
    let sign := "-?:,[]\x7b\x7d#&*!|>'\"%@`".toList.contains char
    -- A sign that opens something else begins a plain scalar only where it cannot open it.
    !(isBlank char || isBreak char || sign) ||
      (char = '-' && !(cursor.at? 1).any isBlank) ||
      (!lexer.inFlow && (char = '?' || char = ':') && !cursor.endsWordAt 1)

/-- Ends all blocks, and allows no key to begin here. -/
def leaveBlocks? (lexer : Lexer) : Option Lexer := do
  let lexer ← (lexer.unroll (-1)).dropKey?
  return { lexer with keyAllowed := false }

/-- Takes the sign of an entry in a block sequence. -/
def takeEntry? (lexer : Lexer) : Option Lexer := do
  -- An entry may stand only where a key might, which is at the beginning of a line or of another entry.
  if !lexer.inFlow && !lexer.keyAllowed then none
  else
    let lexer := lexer.roll lexer.cursor.column lexer.tokens.size .blockSequence
    let lexer ← lexer.dropKey?
    return { lexer with keyAllowed := true }.take 1 .entry

/-- Takes the sign of a key. -/
def takeKey? (lexer : Lexer) : Option Lexer := do
  if !lexer.inFlow && !lexer.keyAllowed then none
  else
    let lexer := lexer.roll lexer.cursor.column lexer.tokens.size .blockMapping
    let lexer ← lexer.dropKey?
    return { lexer with keyAllowed := !lexer.inFlow }.take 1 .key

/-- Takes the sign of a value; what stands before it may turn out to be a key. -/
def takeValue? (lexer : Lexer) : Option Lexer :=
  match lexer.keys with
  | some place :: rest =>
    -- What was read since the place was marked turns out to be a key: its token goes in front.
    let lexer := { lexer with tokens := lexer.tokens.insertIdxIfInBounds place.number .key }
    let lexer := lexer.roll place.column place.number .blockMapping
    some ({ lexer with keys := none :: rest, keyAllowed := false }.take 1 .value)
  | _ =>
    -- A value without a key before it, which has an empty one.
    if !lexer.inFlow && !lexer.keyAllowed then none
    else
      let lexer := lexer.roll lexer.cursor.column lexer.tokens.size .blockMapping
      some ({ lexer with keyAllowed := !lexer.inFlow }.take 1 .value)

/-- Takes the sign that opens a flow collection. -/
def openFlow? (lexer : Lexer) (token : Token) : Option Lexer := do
  let lexer ← lexer.markKey?
  return { lexer with keys := none :: lexer.keys, keyAllowed := true }.take 1 token

/-- Takes the sign that closes a flow collection. -/
def closeFlow? (lexer : Lexer) (token : Token) : Option Lexer := do
  let lexer ← lexer.dropKey?
  let keys := if lexer.inFlow then lexer.keys.drop 1 else lexer.keys
  return { lexer with keys := keys, keyAllowed := false }.take 1 token

/-- Takes a name with which a key may begin. -/
def takeNamed? (lexer : Lexer) (read : Cursor → Option (Token × Cursor)) : Option Lexer := do
  let lexer ← lexer.markKey?
  let (token, next) ← read lexer.cursor
  return { lexer.push token with cursor := next, keyAllowed := false }

/-- Takes a block scalar. -/
def takeBlockScalar? (lexer : Lexer) (style : Style) : Option Lexer := do
  -- A block scalar is never a key.
  let lexer ← lexer.dropKey?
  let (text, next) ← readBlock style lexer.indent lexer.cursor
  return { lexer.push (.scalar text style) with cursor := next, keyAllowed := true }

/-- Takes a plain scalar. -/
def takePlain? (lexer : Lexer) : Option Lexer := do
  let lexer ← lexer.markKey?
  let (text, next, broken) ← readPlain lexer.inFlow (lexer.indent + 1).toNat lexer.cursor
  -- After a line end that was passed with the scalar, a key may begin again.
  return { lexer.push (.scalar text .plain) with cursor := next, keyAllowed := broken }

/-- Takes a quoted scalar. -/
def takeQuoted? (lexer : Lexer) (double : Bool) : Option Lexer :=
  lexer.takeNamed? fun cursor =>
    (readQuoted double cursor).map fun (text, next) =>
      (.scalar text (if double then .doubleQuoted else .singleQuoted), next)

/-- Ends the text. -/
def finish? (lexer : Lexer) : Option Lexer := do
  let lexer ← lexer.leaveBlocks?
  return lexer.push .streamEnd

/-- Takes the token that begins here, which is not at the end of the text. -/
def takeToken? (lexer : Lexer) : Option Lexer :=
  let cursor := lexer.cursor
  let wordEnds := cursor.endsWordAt 1
  match cursor.peek with
  | none => none
  | some char =>
    -- The marks of documents and directives come first: at the margin they outweigh any other reading.
    if cursor.column = 0 ∧ char = '%' then do
      let lexer ← lexer.leaveBlocks?
      let (token, next) ← readDirective? lexer.cursor
      return { lexer.push token with cursor := next }
    else if cursor.onMarker '-' then (lexer.leaveBlocks?).map (·.take 3 .documentStart)
    else if cursor.onMarker '.' then (lexer.leaveBlocks?).map (·.take 3 .documentEnd)
    else if char = '[' then lexer.openFlow? .flowSequence
    else if char = '\x7b' then lexer.openFlow? .flowMapping
    else if char = ']' then lexer.closeFlow? .flowSequenceEnd
    else if char = '\x7d' then lexer.closeFlow? .flowMappingEnd
    else if char = ',' then
      (lexer.dropKey?).map fun lexer => { lexer with keyAllowed := true }.take 1 .comma
    -- These three signs are part of a word unless one ends with them.
    else if char = '-' ∧ wordEnds then lexer.takeEntry?
    else if char = '?' ∧ (lexer.inFlow ∨ wordEnds) then lexer.takeKey?
    else if char = ':' ∧ (lexer.inFlow ∨ wordEnds) then lexer.takeValue?
    else if char = '*' then
      lexer.takeNamed? fun cursor => (readAnchor? cursor).map fun (name, next) => (.alias name, next)
    else if char = '&' then
      lexer.takeNamed? fun cursor => (readAnchor? cursor).map fun (name, next) => (.anchor name, next)
    else if char = '!' then lexer.takeNamed? (readTag? lexer.inFlow)
    else if char = '|' ∧ !lexer.inFlow then lexer.takeBlockScalar? .literal
    else if char = '>' ∧ !lexer.inFlow then lexer.takeBlockScalar? .folded
    else if char = '\'' then lexer.takeQuoted? false
    else if char = '"' then lexer.takeQuoted? true
    else if lexer.onPlain then lexer.takePlain?
    else none

/-- Takes tokens up to the end of the text. -/
def run? : Nat → Lexer → Option Lexer
  | 0, _ => none
  | fuel + 1, lexer => do
    let lexer := lexer.skipToToken (lexer.cursor.rest.length + 1)
    -- Keys are given up and blocks ended before the token is looked at, since both depend on its place alone.
    let lexer ← lexer.dropStaleKeys?
    let lexer := lexer.unroll (Int.ofNat lexer.cursor.column)
    if lexer.cursor.ended then lexer.finish?
    else
      let lexer ← lexer.takeToken?
      run? fuel lexer

end Lexer

/-- The tokens of a text; `none` when it cannot be cut into tokens. -/
def tokensOf? (text : String) : Option (List Token) :=
  let chars := text.toList
  if !chars.all isAllowed then none
  else (Lexer.run? (chars.length + 2) (.start chars)).map fun lexer => lexer.tokens.toList

end ImageHeader.Yaml
