import ImageHeader.Process.Shell.Pattern

/-! Fields: how the text that words expand to falls apart. -/

namespace ImageHeader.Shell

/-- A piece of an expanded word. -/
inductive Piece where
  | glyph (glyph : Glyph)
  /-- A quotation mark, which keeps a field even when nothing stands in it. -/
  | quote
  deriving DecidableEq, Repr

/-- Where a stretch of an expanded word falls apart. -/
inductive Division where
  /-- Nowhere. -/
  | nowhere
  /-- At the separators, as values do. -/
  | separators
  /-- At the separators; such stretches that touch are one. -/
  | literal
  /-- Between arguments, which zero characters keep apart. -/
  | arguments
  deriving DecidableEq, Repr

/-- A stretch of an expanded word. -/
structure Stretch where
  /-- Where it falls apart. -/
  division : Division
  /-- What it consists of. -/
  pieces : List Piece
  deriving DecidableEq, Repr

/-- The character that keeps arguments apart. -/
def gap : Char := '\x00'

/-- The pieces of a text. -/
def piecesOf (active : Bool) (chars : List Char) : List Piece :=
  chars.map fun char => .glyph ⟨char, active⟩

/-- Joins the literal stretches that touch. -/
def joinLiterals : List Stretch → List Stretch
  | [] => []
  | stretch :: rest =>
    match joinLiterals rest with
    | ⟨.literal, pieces⟩ :: after =>
      if stretch.division = .literal then ⟨.literal, stretch.pieces ++ pieces⟩ :: after
      else stretch :: ⟨.literal, pieces⟩ :: after
    | rest => stretch :: rest

/-- The characters that pieces show. -/
def textOf (pieces : List Piece) : List Char :=
  pieces.filterMap fun piece =>
    match piece with
    | .glyph glyph => some glyph.char
    | .quote => none

/-- The pattern that pieces make up. -/
def patternOf (pieces : List Piece) : Pattern :=
  pieces.filterMap fun piece =>
    match piece with
    | .glyph glyph => some glyph
    | .quote => none

/-- What is known while pieces fall apart into fields. -/
structure Splitting where
  /-- The finished fields, the last first. -/
  finished : List (List Piece) := []
  /-- The open field, its last piece first. -/
  current : List Piece := []
  /-- Whether a blank has ended a field right before. -/
  afterBlank : Bool := false
  /-- The number of fields that may still be opened; none means any. -/
  room : Option Nat := none
  /-- The number of pieces of the last field that stay if only blanks follow. -/
  kept : Option Nat := none

/-- Whether a character is a blank that separates fields. -/
def isBlank (char : Char) : Bool := char = ' ' || char = '\t' || char = '\n' || char = gap

/-- Takes a piece into the last field there is room for: blanks at its end are dropped, and so is one separator if
nothing else follows. -/
def Splitting.extend (splitting : Splitting) (separates : Bool) (char : Char) (piece : Piece) : Splitting :=
  let taken := { splitting with current := piece :: splitting.current }
  if separates && isBlank char then
    { taken with kept := splitting.kept.getD splitting.current.length }
  else
    { taken with
      kept := if separates && splitting.afterBlank then splitting.kept else none
      afterBlank := false }

/-- Takes a piece of a stretch that falls apart; `hard` keeps fields that are empty. -/
def Splitting.take (hard : Bool) (isSeparator : Char → Bool) (splitting : Splitting) (piece : Piece) :
    Splitting :=
  match piece with
  | .quote => { splitting with current := .quote :: splitting.current }
  | .glyph ⟨char, active⟩ =>
    let separates := isSeparator char
    -- The last field takes the rest with its separators.
    if splitting.room = some 0 then splitting.extend separates char (.glyph ⟨char, active⟩)
    else if splitting.afterBlank && separates then
      -- Blanks around a separator belong to it.
      { splitting with current := [], afterBlank := isBlank char }
    else if splitting.afterBlank then
      { splitting with current := [.glyph ⟨char, active⟩], afterBlank := false }
    else if !separates then { splitting with current := .glyph ⟨char, active⟩ :: splitting.current }
    else
      -- A blank never makes an empty field; any other separator does.
      let blank := !hard && isBlank char
      if splitting.current = [] && blank then splitting
      else
        match splitting.room with
        | some 1 =>
          { splitting with
            current := .glyph ⟨char, active⟩ :: splitting.current
            room := some 0
            kept := some splitting.current.length
            afterBlank := blank }
        | room =>
          { splitting with
            finished := splitting.current.reverse :: splitting.finished
            current := []
            room := room.map (· - 1)
            afterBlank := blank }

/-- Takes stretches one by one; `afterArguments` tells whether arguments stand right before them. -/
def Splitting.takeAll (separators : List Char) (splitting : Splitting) :
    Bool → List Stretch → Splitting × Bool
  | afterArguments, [] => (splitting, afterArguments)
  | afterArguments, stretch :: rest =>
    match stretch.division with
    | .nowhere =>
      Splitting.takeAll separators
        { splitting with current := stretch.pieces.reverse ++ splitting.current } afterArguments rest
    | .arguments =>
      let taken := stretch.pieces.foldl (Splitting.take true fun char => char = gap)
        { splitting with afterBlank := false }
      Splitting.takeAll separators taken true rest
    | _ =>
      let taken := stretch.pieces.foldl
        (Splitting.take afterArguments fun char => char = gap || separators.contains char)
        { splitting with afterBlank := false }
      Splitting.takeAll separators taken false rest

/-- The fields into which stretches fall, at most `room` of them. -/
def divide (separators : List Char) (room : Option Nat) (stretches : List Stretch) : List (List Piece) :=
  let start : Splitting := { room := room }
  let (splitting, afterArguments) := start.takeAll separators false (joinLiterals stretches)
  let whole := splitting.current.reverse
  let last :=
    match splitting.kept with
    | some count => whole.take count
    | none => whole
  -- An empty field at the end is only kept between arguments.
  let fields := if last = [] && !afterArguments then splitting.finished else last :: splitting.finished
  fields.reverse

end ImageHeader.Shell
