/-! Cursors: a place in a YAML text, with the line and column it stands at. -/

namespace ImageHeader.Yaml

/-- Whether a character may stand in a YAML text at all. -/
def isAllowed (char : Char) : Bool :=
  let code := char.toNat
  code = 0x09 || code = 0x0A || code = 0x0D || (0x20 ≤ code && code ≤ 0x7E) || code = 0x85 ||
    (0xA0 ≤ code && code ≤ 0xD7FF) || (0xE000 ≤ code && code ≤ 0xFFFD) || 0x10000 ≤ code

/-- Whether a character separates words within a line. -/
def isBlank (char : Char) : Bool := char = ' ' || char = '\t'

/-- Whether a character ends a line. -/
def isBreak (char : Char) : Bool :=
  char = '\n' || char = '\r' || char = '\x85' || char = '\u2028' || char = '\u2029'

/-- Whether a character may stand in an anchor or the handle of a tag. -/
def isWordChar (char : Char) : Bool := char.isAlphanum || char = '_' || char = '-'

/-- A place in a text. -/
structure Cursor where
  /-- The characters from here on. -/
  rest : List Char
  /-- The number of characters before. -/
  index : Nat
  /-- The number of lines before. -/
  line : Nat
  /-- The number of characters before on this line. -/
  column : Nat
  deriving Repr

namespace Cursor

/-- The beginning of a text. -/
def start (chars : List Char) : Cursor := ⟨chars, 0, 0, 0⟩

/-- The character at a distance, if the text reaches so far. -/
def at? (cursor : Cursor) (distance : Nat) : Option Char := cursor.rest[distance]?

/-- The character here, if any. -/
def peek (cursor : Cursor) : Option Char := cursor.rest.head?

/-- Whether a character stands at a distance. -/
def sees (cursor : Cursor) (distance : Nat) (char : Char) : Bool := cursor.at? distance == some char

/-- Whether the text ends here. -/
def ended (cursor : Cursor) : Bool := cursor.rest.isEmpty

/-- Whether a blank stands here. -/
def onBlank (cursor : Cursor) : Bool := cursor.peek.any isBlank

/-- Whether a line ends here with a character of its own. -/
def onBreak (cursor : Cursor) : Bool := cursor.peek.any isBreak

/-- Whether a line or the text ends at a distance. -/
def endsLineAt (cursor : Cursor) (distance : Nat) : Bool := (cursor.at? distance).all isBreak

/-- Whether a blank, or the end of a line or of the text, stands at a distance. -/
def endsWordAt (cursor : Cursor) (distance : Nat) : Bool :=
  (cursor.at? distance).all fun char => isBlank char || isBreak char

/-- The place after some characters of this line. -/
def forward (cursor : Cursor) (count : Nat) : Cursor :=
  ⟨cursor.rest.drop count, cursor.index + count, cursor.line, cursor.column + count⟩

/-- The characters from here on that satisfy a test, and the place after them; line ends must not satisfy it. -/
def takeWhile (cursor : Cursor) (test : Char → Bool) : List Char × Cursor :=
  let taken := cursor.rest.takeWhile test
  (taken, cursor.forward taken.length)

/-- The place after the characters that satisfy a test. -/
def skipWhile (cursor : Cursor) (test : Char → Bool) : Cursor := (cursor.takeWhile test).2

/-- Takes a line end: what it counts as in a folded text, and the place after it. -/
def takeBreak (cursor : Cursor) : List Char × Cursor :=
  match cursor.rest with
  -- Both characters together are one line end, which is why they come first.
  | '\r' :: '\n' :: rest => (['\n'], ⟨rest, cursor.index + 2, cursor.line + 1, 0⟩)
  | char :: rest =>
    if isBreak char then
      -- The separators of Unicode stay what they are; all other line ends count as one and the same.
      let kept := if char = '\u2028' ∨ char = '\u2029' then char else '\n'
      ([kept], ⟨rest, cursor.index + 1, cursor.line + 1, 0⟩)
    else ([], cursor)
  | [] => ([], cursor)

/-- The place after the rest of this line, if nothing but blanks and a comment is on it. -/
def skipLineRest? (cursor : Cursor) : Option Cursor :=
  let cursor := cursor.skipWhile isBlank
  let cursor := if cursor.sees 0 '#' then cursor.skipWhile fun char => !isBreak char else cursor
  -- Nothing else may stand on the line, and the end of the text ends it as well.
  if cursor.endsLineAt 0 then some cursor.takeBreak.2 else none

/-- Whether a line of three equal characters that marks a document stands here. -/
def onMarker (cursor : Cursor) (char : Char) : Bool :=
  -- A mark stands at the beginning of a line, and is a word by itself.
  cursor.column == 0 && cursor.sees 0 char && cursor.sees 1 char && cursor.sees 2 char &&
    cursor.endsWordAt 3

/-- Whether the start or the end of a document is marked here. -/
def onDocumentMarker (cursor : Cursor) : Bool := cursor.onMarker '-' || cursor.onMarker '.'

end Cursor

/-- What stands between two words of a scalar: blanks on one line, or line ends with blanks around them. -/
structure Gap where
  /-- The blanks, when there is no line end. -/
  blanks : List Char := []
  /-- Whether there is a line end. -/
  broken : Bool := false
  /-- The first line end. -/
  first : List Char := []
  /-- The further line ends. -/
  later : List Char := []
  deriving Repr

/-- What a gap becomes: one line end turns into a space, and further ones stay. -/
def Gap.text (gap : Gap) : List Char :=
  if !gap.broken then gap.blanks
  else if gap.first.head? = some '\n' then
    -- A single line end folds to a space; with more of them only the first vanishes.
    if gap.later = [] then [' '] else gap.later
  else gap.first ++ gap.later

/-- Extends a gap over the blanks and line ends from here on; after a line end, a tab left of `margin` is refused. -/
def Gap.extend? (margin : Nat) : Nat → Gap → Cursor → Option (Gap × Cursor)
  | 0, gap, cursor => some (gap, cursor)
  | fuel + 1, gap, cursor =>
    match cursor.peek with
    | none => some (gap, cursor)
    | some char =>
      if isBlank char then
        -- A tab may not be what indents a line.
        if gap.broken && cursor.column < margin && char = '\t' then none
        -- Blanks around line ends leave no trace.
        else if gap.broken then extend? margin fuel gap (cursor.forward 1)
        else extend? margin fuel { gap with blanks := gap.blanks ++ [char] } (cursor.forward 1)
      else if isBreak char then
        let (kept, next) := cursor.takeBreak
        if gap.broken then extend? margin fuel { gap with later := gap.later ++ kept } next
        else extend? margin fuel { gap with blanks := [], broken := true, first := kept } next
      else some (gap, cursor)

/-- The gap that follows `start` from a place on, and the place after it. -/
def Gap.take? (margin : Nat) (start : Gap) (cursor : Cursor) : Option (Gap × Cursor) :=
  Gap.extend? margin (cursor.rest.length + 1) start cursor

end ImageHeader.Yaml
