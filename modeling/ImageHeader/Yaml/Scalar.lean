import ImageHeader.Text.Hex
import ImageHeader.Yaml.Cursor

/-! Scalars: the quoted, plain and block forms of a text, read with their folding rules. -/

namespace ImageHeader.Yaml

/-- How a scalar is written. -/
inductive Style where
  | plain
  | singleQuoted
  | doubleQuoted
  | literal
  | folded
  deriving DecidableEq, Repr

/-- The text of a scalar, and the place after it. -/
abbrev Scanned := Option (List Char × Cursor)

/-- The character that a letter after a backslash stands for, if any. -/
def escape? (letter : Char) : Option Char :=
  match letter with
  | '0' => some '\x00'
  | 'a' => some '\x07'
  | 'b' => some '\x08'
  | 't' | '\t' => some '\t'
  | 'n' => some '\n'
  | 'v' => some '\x0b'
  | 'f' => some '\x0c'
  | 'r' => some '\r'
  | 'e' => some '\x1b'
  | ' ' => some ' '
  | '"' => some '"'
  | '/' => some '/'
  | '\\' => some '\\'
  | 'N' => some '\x85'
  | '_' => some '\xa0'
  | 'L' => some '\u2028'
  | 'P' => some '\u2029'
  | _ => none

/-- The number of hexadecimal digits after a letter that asks for a code point. -/
def digitsAfter? (letter : Char) : Option Nat :=
  match letter with
  | 'x' => some 2
  | 'u' => some 4
  | 'U' => some 8
  | _ => none

/-- The number that some hexadecimal digits spell. -/
def hexadecimal? (digits : List Char) : Option Nat :=
  digits.foldl (fun total digit => do
    let total ← total
    let value ← Hex.value? digit
    return total * 16 + value) (some 0)

/-- Reads an escape at its backslash. -/
def readEscape? (cursor : Cursor) : Option (Char × Cursor) := do
  let letter ← cursor.at? 1
  match escape? letter with
  | some char => return (char, cursor.forward 2)
  | none =>
    let count ← digitsAfter? letter
    let digits := (cursor.rest.drop 2).take count
    -- A text that ends too early has fewer digits than the letter asks for.
    if digits.length < count then none
    else
      let code ← hexadecimal? digits
      -- Not every number of eight digits is a character.
      if (0xD800 ≤ code ∧ code ≤ 0xDFFF) ∨ 0x10FFFF < code then none
      else return (Char.ofNat code, cursor.forward (2 + count))

/-- Reads a quoted scalar after its opening quote; the text found so far comes last character first. -/
def readQuotedFrom (double : Bool) : Nat → List Char → Cursor → Scanned
  | 0, _, _ => none
  | fuel + 1, found, cursor =>
    let quote := if double then '"' else '\''
    -- Quotes do not reach over the end of a document.
    if cursor.onDocumentMarker then none
    else
      match cursor.peek with
      | none => none
      | some char =>
        if isBlank char || isBreak char then do
          let (gap, next) ← Gap.take? 0 {} cursor
          readQuotedFrom double fuel (gap.text.reverse ++ found) next
        -- Between single quotes only the quote needs an escape, and is its own.
        else if !double && char = quote && cursor.sees 1 quote then
          readQuotedFrom double fuel (quote :: found) (cursor.forward 2)
        else if char = quote then some (found.reverse, cursor.forward 1)
        else if double && char = '\\' then
          if (cursor.at? 1).any isBreak then do
            -- A line end that is escaped vanishes, and the blanks after it with it.
            let (gap, next) ← Gap.take? 0 { broken := true } (cursor.forward 1).takeBreak.2
            readQuotedFrom double fuel (gap.text.reverse ++ found) next
          else do
            let (meant, next) ← readEscape? cursor
            readQuotedFrom double fuel (meant :: found) next
        else readQuotedFrom double fuel (char :: found) (cursor.forward 1)

/-- Reads a quoted scalar at its opening quote. -/
def readQuoted (double : Bool) (cursor : Cursor) : Scanned :=
  readQuotedFrom double (cursor.rest.length + 1) [] (cursor.forward 1)

/-- Whether a character separates the items of a flow collection. -/
def isFlowMark (char : Char) : Bool :=
  char = ',' || char = '[' || char = ']' || char = '\x7b' || char = '\x7d'

/-- A plain scalar that is being read. -/
structure Plain where
  /-- The text so far, last character first. -/
  found : List Char
  /-- What has been passed since its last character. -/
  gap : Gap
  /-- The place reached. -/
  cursor : Cursor
  deriving Repr

/-- Reads the characters of a plain scalar up to the next blank or the scalar's end, and tells whether it goes on. -/
def readPlainWord (flow : Bool) : Nat → Plain → Option (Plain × Bool)
  | 0, plain => some (plain, false)
  | fuel + 1, plain =>
    match plain.cursor.peek with
    | none => some (plain, false)
    | some char =>
      -- What follows the blanks decides whether the scalar goes on.
      if isBlank char || isBreak char then some (plain, true)
      -- In a flow collection a colon right before one of its marks belongs to neither side.
      else if flow && char = ':' &&
          (plain.cursor.at? 1).any (fun next => isFlowMark next || next = '?') then none
      -- A colon at the end of a word makes a key of what came before.
      else if (char = ':' && plain.cursor.endsWordAt 1) || (flow && isFlowMark char) then
        some (plain, false)
      else
        -- The gap counts only now that something stands behind it.
        let found := char :: (plain.gap.text.reverse ++ plain.found)
        readPlainWord flow fuel ⟨found, {}, plain.cursor.forward 1⟩

/-- Reads the words of a plain scalar; outside flow collections it ends left of `margin`. -/
def readPlainFrom (flow : Bool) (margin : Nat) : Nat → Plain → Option Plain
  | 0, plain => some plain
  | fuel + 1, plain =>
    -- A comment opens only after a blank, so a number sign inside a word never reaches this test.
    if plain.cursor.onDocumentMarker || plain.cursor.sees 0 '#' then some plain
    else
      match readPlainWord flow (plain.cursor.rest.length + 1) plain with
      | none => none
      | some (plain, false) => some plain
      | some (plain, true) =>
        match Gap.take? margin plain.gap plain.cursor with
        | none => none
        | some (gap, next) =>
          let plain : Plain := ⟨plain.found, gap, next⟩
          -- The next line is indented too little to belong here.
          if !flow && next.column < margin then some plain
          else readPlainFrom flow margin fuel plain

/-- Reads a plain scalar: its text, the place after it and whether a line end was passed behind it. -/
def readPlain (flow : Bool) (margin : Nat) (cursor : Cursor) :
    Option (List Char × Cursor × Bool) := do
  let plain ← readPlainFrom flow margin (cursor.rest.length + 1) ⟨[], {}, cursor⟩
  return (plain.found.reverse, plain.cursor, plain.gap.broken)

/-- What becomes of the line ends at the end of a block scalar. -/
inductive Chomping where
  | clip
  | strip
  | keep
  deriving DecidableEq, Repr

/-- Reads a chomping sign, if one is here. -/
def readChomping (cursor : Cursor) : Option Chomping × Cursor :=
  if cursor.sees 0 '+' then (some .keep, cursor.forward 1)
  else if cursor.sees 0 '-' then (some .strip, cursor.forward 1)
  else (none, cursor)

/-- Reads a digit for an indentation, if one is here; zero is refused. -/
def readIndentation? (cursor : Cursor) : Option (Nat × Cursor) :=
  match cursor.peek with
  | some char =>
    -- Zero would say that nothing is indented.
    if char = '0' then none
    else if char.isDigit then some (char.toNat - '0'.toNat, cursor.forward 1)
    else some (0, cursor)
  | none => some (0, cursor)

/-- Reads the signs of a block scalar in either order. -/
def readBlockSigns? (cursor : Cursor) : Option (Chomping × Nat × Cursor) := do
  let (chomping, next) := readChomping cursor
  let (indentation, next) ← readIndentation? next
  match chomping with
  | some chomping => return (chomping, indentation, next)
  | none =>
    -- The sign may come after the digit, but not twice.
    if indentation = 0 then return (.clip, 0, next)
    else
      let (chomping, next) := readChomping next
      return (chomping.getD .clip, indentation, next)

/-- Passes over empty lines before a line of a block scalar: the line ends, the widest indentation, and the
place reached. -/
def takeEmptyLines? (margin : Nat) : Nat → List Char → Nat → Cursor →
    Option (List Char × Nat × Cursor)
  | 0, _, _, _ => none
  | fuel + 1, ends, widest, cursor =>
    -- A margin of zero is not known yet.
    let room := if margin = 0 then cursor.rest.length else margin - cursor.column
    let spaces := (cursor.rest.takeWhile (· = ' ')).length
    let next := cursor.forward (min spaces room)
    let widest := max widest next.column
    if (margin = 0 || next.column < margin) && next.sees 0 '\t' then none
    else if next.onBreak then
      let (kept, after) := next.takeBreak
      takeEmptyLines? margin fuel (ends ++ kept) widest after
    else some (ends, widest, next)

/-- A block scalar that is being read. -/
structure Block where
  /-- The text so far, last character first. -/
  found : List Char
  /-- The end of the last line. -/
  lineEnd : List Char
  /-- The ends of the empty lines after it. -/
  emptyEnds : List Char
  /-- Whether the last line began with a blank. -/
  afterBlank : Bool
  /-- The place reached. -/
  cursor : Cursor
  deriving Repr

/-- Reads the lines of a block scalar that stand at its margin. -/
def readBlockLines (style : Style) (margin : Nat) : Nat → Block → Option Block
  | 0, block => some block
  | fuel + 1, block =>
    -- The first line that does not reach the margin ends the scalar.
    if block.cursor.column ≠ margin ∨ block.cursor.ended then some block
    else do
      let onBlank := block.cursor.onBlank
      -- Two lines are joined unless one of them is indented further.
      let folds := style = .folded ∧ block.lineEnd.head? = some '\n' ∧ !block.afterBlank ∧ !onBlank
      let joint :=
        if folds then (if block.emptyEnds = [] then [' '] else []) else block.lineEnd
      let (line, next) := block.cursor.takeWhile fun char => !isBreak char
      let (lineEnd, next) := next.takeBreak
      let (emptyEnds, _, next) ← takeEmptyLines? margin (next.rest.length + 1) [] 0 next
      let found := line.reverse ++ (block.emptyEnds.reverse ++ (joint.reverse ++ block.found))
      readBlockLines style margin fuel ⟨found, lineEnd, emptyEnds, onBlank, next⟩

/-- Reads a block scalar at its sign, within blocks that are indented by `indent`; -1 is no block. -/
def readBlock (style : Style) (indent : Int) (cursor : Cursor) : Scanned := do
  let (chomping, indentation, next) ← readBlockSigns? (cursor.forward 1)
  let next ← next.skipLineRest?
  let given := if indentation = 0 then 0 else (max indent 0).toNat + indentation
  let (ends, widest, next) ← takeEmptyLines? given (next.rest.length + 1) [] 0 next
  -- Without a digit, the first line that is not empty sets the margin.
  let margin := if given = 0 then max (max widest (indent + 1).toNat) 1 else given
  let block ← readBlockLines style margin (next.rest.length + 1) ⟨[], [], ends, false, next⟩
  let tail :=
    match chomping with
    | .strip => []
    | .clip => block.lineEnd
    | .keep => block.lineEnd ++ block.emptyEnds
  return (block.found.reverse ++ tail, block.cursor)

end ImageHeader.Yaml
