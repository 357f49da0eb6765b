/-! Patterns: the texts by which a filter describes values of fields, read as far as to tell which texts are none. -/

namespace ImageHeader.Log

/-- A change of how a pattern is taken: letters for what begins and for what ends. -/
structure Change where
  /-- The letters for what begins. -/
  begun : List Char := []
  /-- The letters for what ends. -/
  ended : List Char := []
  deriving DecidableEq, Repr

/-- Whether a letter's meaning holds after a change, if it held before as `held`. -/
def Change.settle (change : Change) (letter : Char) (held : Bool) : Bool :=
  -- What ends wins over what begins, though no letter can be given twice.
  (held || change.begun.contains letter) && !change.ended.contains letter

/-- The characters that a bracket admits. -/
inductive Bracket where
  | empty
  /-- One character, perhaps written as the number of a byte. -/
  | literal (char : Char) (byte : Bool)
  | range (first last : Char)
  /-- A named set of ASCII characters, or those outside of it. -/
  | named (inverse : Bool)
  /-- The digits, blanks or word characters, or those that are none. -/
  | family (inverse : Bool)
  /-- The characters with a property. -/
  | property
  | nested (inverse : Bool) (inner : Bracket)
  | union (members : List Bracket)
  /-- What two sets have or have not in common. -/
  | operation (left right : Bracket)
  deriving Repr

/-- A pattern. -/
inductive Pattern where
  | empty
  /-- One character, perhaps written as the number of a byte. -/
  | literal (char : Char) (byte : Bool)
  /-- Any character within a line. -/
  | dot
  /-- The beginning or the end of the text, of a line or, if `word`, of a word. -/
  | edge (word : Bool)
  /-- The digits, blanks or word characters, or those that are none. -/
  | family (inverse : Bool)
  /-- The characters with a property. -/
  | property
  | bracket (inverse : Bool) (inner : Bracket)
  | change (letters : Change)
  | repeated (inner : Pattern)
  | group (letters : Change) (inner : Pattern)
  | sequence (parts : List Pattern)
  | alternatives (parts : List Pattern)
  deriving Repr

namespace Bracket

mutual

/-- How many levels deep the sets of a bracket lie in each other. -/
def depth : Bracket → Nat
  | .empty | .literal .. | .range .. | .named _ | .family _ | .property => 0
  | .nested _ inner => inner.depth + 1
  | .union members => depthOfAll members + 1
  | .operation left right => max left.depth right.depth + 1

/-- The greatest depth of some brackets. -/
def depthOfAll : List Bracket → Nat
  | [] => 0
  | bracket :: rest => max bracket.depth (depthOfAll rest)

end

mutual

/-- Whether a bracket has a meaning where whole characters count: what needs tables of characters has none. -/
def isTextual (caseless : Bool) : Bracket → Bool
  | .empty => true
  | .literal .. | .range .. | .named _ => !caseless
  | .family _ | .property => false
  | .nested _ inner => inner.isTextual caseless
  | .union members => areTextual caseless members
  | .operation left right => left.isTextual caseless && right.isTextual caseless

/-- Whether all of some brackets have a meaning where whole characters count. -/
def areTextual (caseless : Bool) : List Bracket → Bool
  | [] => true
  | bracket :: rest => bracket.isTextual caseless && areTextual caseless rest

end

mutual

/-- Whether a bracket has a meaning where bytes count: no byte may be admitted that is only a part of a character. -/
def isBytewise : Bracket → Bool
  | .empty => true
  | .literal char _ => char.toNat < 0x80
  | .range first last => first.toNat < 0x80 && last.toNat < 0x80
  -- The inverse of a set of bytes admits parts of characters.
  | .named inverse | .family inverse => !inverse
  | .property => false
  | .nested inverse inner => !inverse && inner.isBytewise
  | .union members => areBytewise members
  | .operation left right => left.isBytewise && right.isBytewise

/-- Whether all of some brackets have a meaning where bytes count. -/
def areBytewise : List Bracket → Bool
  | [] => true
  | bracket :: rest => bracket.isBytewise && areBytewise rest

end

end Bracket

namespace Pattern

mutual

/-- How many levels deep the parts of a pattern lie in each other. -/
def depth : Pattern → Nat
  | .empty | .literal .. | .dot | .edge _ | .family _ | .property | .change _ => 0
  | .bracket _ inner => inner.depth + 1
  | .repeated inner | .group _ inner => inner.depth + 1
  | .sequence parts | .alternatives parts => depthOfAll parts + 1

/-- The greatest depth of some patterns. -/
def depthOfAll : List Pattern → Nat
  | [] => 0
  | pattern :: rest => max pattern.depth (depthOfAll rest)

end

/-- How a pattern is taken. -/
structure Mode where
  /-- Whether upper and lower case are one. -/
  caseless : Bool := false
  /-- Whether whole characters count rather than bytes. -/
  textual : Bool := true
  deriving DecidableEq, Repr

/-- The mode after a change. -/
def Mode.apply (mode : Mode) (change : Change) : Mode :=
  ⟨change.settle 'i' mode.caseless, change.settle 'u' mode.textual⟩

mutual

/-- The mode after a pattern, if it has a meaning: there are no tables of characters, and only text is ever matched. -/
def modeAfter? (mode : Mode) : Pattern → Option Mode
  | .empty => some mode
  | .literal char byte =>
    if mode.textual then if mode.caseless then none else some mode
    else if byte && 0x80 ≤ char.toNat then none
    else some mode
  | .dot => if mode.textual then some mode else none
  | .edge word => if word && mode.textual then none else some mode
  | .family inverse => if mode.textual || inverse then none else some mode
  | .property => none
  | .bracket inverse inner =>
    let meaningful :=
      if mode.textual then inner.isTextual mode.caseless else !inverse && inner.isBytewise
    if meaningful then some mode else none
  | .change letters => some (mode.apply letters)
  | .repeated inner => inner.modeAfter? mode
  -- A change within a group ends with it.
  | .group letters inner => (inner.modeAfter? (mode.apply letters)).map fun _ => mode
  | .sequence parts | .alternatives parts => modeAfterAll? mode parts

/-- The mode after some patterns in a row, if they have a meaning. -/
def modeAfterAll? (mode : Mode) : List Pattern → Option Mode
  | [] => some mode
  | pattern :: rest => (pattern.modeAfter? mode).bind fun mode => modeAfterAll? mode rest

end

/-- The greatest depth of a pattern. -/
def depthLimit : Nat := 250

end Pattern

end ImageHeader.Log
