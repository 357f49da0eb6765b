import ImageHeader.Process.Shell

/-! Patterns of the shell: what they match, what they take off a value, and the paths that they stand for. -/

namespace ImageHeader.Shell

/-- A character, and whether it may act as part of a pattern. -/
structure Glyph where
  /-- The character. -/
  char : Char
  /-- Whether it may act. -/
  active : Bool
  deriving DecidableEq, Repr

/-- A pattern: characters of which some act. -/
abbrev Pattern := List Glyph

namespace Pattern

/-- The characters of a pattern. -/
def text (pattern : Pattern) : List Char := pattern.map Glyph.char

/-- The pattern without active backslashes: each makes the character after it stand for itself. -/
def settle : Pattern → Pattern
  | [] => []
  -- A backslash at the end has nothing to act on.
  | [glyph] => [if glyph.char = '\\' then ⟨'\\', false⟩ else glyph]
  | ⟨'\\', true⟩ :: next :: rest => ⟨next.char, false⟩ :: settle rest
  | glyph :: next :: rest => glyph :: settle (next :: rest)

/-- The names of character classes, with their members. -/
def classes : List (String × (Char → Bool)) :=
  let isPunctuation (char : Char) : Bool := '!' ≤ char && char ≤ '~' && !char.isAlphanum
  [("alnum", Char.isAlphanum), ("alpha", Char.isAlpha), ("blank", fun char => char = ' ' || char = '\t'),
    ("cntrl", fun char => char.toNat < 0x20 || char.toNat = 0x7F), ("digit", Char.isDigit),
    ("graph", fun char => '!' ≤ char && char ≤ '~'), ("lower", Char.isLower),
    ("print", fun char => ' ' ≤ char && char ≤ '~'), ("punct", isPunctuation),
    ("space", fun char => char = ' ' || ('\t' ≤ char && char ≤ '\r')), ("upper", Char.isUpper),
    ("xdigit", fun char =>
      char.isDigit || ('a' ≤ char && char ≤ 'f') || ('A' ≤ char && char ≤ 'F'))]

/-- Reads the rest of a character class within brackets: its members, and what follows it. -/
def class? (pattern : Pattern) : Option ((Char → Bool) × Pattern) :=
  match pattern with
  | ⟨':', true⟩ :: rest =>
    let name := rest.takeWhile fun glyph => glyph.active && glyph.char ≠ ':'
    match rest.drop name.length with
    | ⟨':', true⟩ :: ⟨']', true⟩ :: after =>
      (classes.find? fun known => known.1.toList = text name).map fun known => (known.2, after)
    | _ => none
  | _ => none

/-- The order of characters within a range: bytes count as signed numbers. -/
def rank (char : Char) : Int := if char.toNat < 128 then char.toNat else (char.toNat : Int) - 256

/-- Reads the members of brackets and tells whether a character is among them; `none` when the brackets are not closed.
The first member may be a closing bracket. -/
def member? (char : Char) : Nat → Bool → Bool → Pattern → Option (Bool × Pattern)
  | 0, _, _, _ => none
  | fuel + 1, first, found, pattern =>
    match pattern with
    | [] => none
    | glyph :: rest =>
      if glyph = ⟨']', true⟩ && !first then some (found, rest)
      else
        match if glyph = ⟨'[', true⟩ then class? rest else none with
        | some (holds, after) => member? char fuel false (found || holds char) after
        | none =>
          match rest with
          | ⟨'-', true⟩ :: last :: after =>
            -- A hyphen before the closing bracket is one of the members.
            if last = ⟨']', true⟩ then member? char fuel false (found || glyph.char = char) rest
            else
              let inside := rank glyph.char ≤ rank char && rank char ≤ rank last.char
              member? char fuel false (found || inside) after
          | _ => member? char fuel false (found || glyph.char = char) rest

/-- Whether brackets that have been opened admit a character, and the pattern after them. -/
def bracket? (char : Char) (pattern : Pattern) : Option (Bool × Pattern) :=
  match pattern with
  | ⟨'!', true⟩ :: rest =>
    (member? char (rest.length + 1) true false rest).map fun (found, after) => (!found, after)
  | rest => member? char (rest.length + 1) true false rest

/-- Whether a text matches a pattern without active backslashes: a star stands for any characters, a question mark for
one, and brackets for one of theirs. -/
def admits : Nat → Pattern → List Char → Bool
  | 0, _, _ => false
  | fuel + 1, pattern, chars =>
    match pattern, chars with
    | [], [] => true
    | ⟨'*', true⟩ :: rest, [] => admits fuel rest []
    | ⟨'*', true⟩ :: rest, first :: after =>
      -- Either the star ends here or it takes one character more.
      admits fuel rest (first :: after) || admits fuel (⟨'*', true⟩ :: rest) after
    | ⟨'?', true⟩ :: rest, _ :: after => admits fuel rest after
    | ⟨'[', true⟩ :: rest, first :: after =>
      match bracket? first rest with
      | some (found, rest) => found && admits fuel rest after
      -- A bracket that is never closed stands for itself.
      | none => first = '[' && admits fuel rest after
    | wanted :: rest, first :: after => wanted.char = first && admits fuel rest after
    | _, _ => false

/-- Whether a text matches a pattern. -/
def matchesText (pattern : Pattern) (chars : List Char) : Bool :=
  let pattern := settle pattern
  admits (pattern.length + chars.length + 1) pattern chars

/-- A text without the shortest or longest match of a pattern at one of its ends. -/
def trim (pattern : Pattern) (front longest : Bool) (chars : List Char) : List Char :=
  let counts := List.range (chars.length + 1)
  -- The number of characters that stay at the front, or go from it.
  let counts := if front = longest then counts.reverse else counts
  let fits (count : Nat) : Bool :=
    pattern.matchesText (if front then chars.take count else chars.drop count)
  match counts.find? fits with
  | some count => if front then chars.drop count else chars.take count
  | none => chars

/-- Whether brackets that have been opened are closed before the next slash. -/
def closesBracket (pattern : Pattern) : Bool :=
  let inside := if pattern.head? = some ⟨'!', true⟩ then pattern.tail else pattern
  match inside.takeWhile fun glyph => glyph.char ≠ '/' with
  | [] => false
  | _ :: rest => rest.contains ⟨']', true⟩

/-- Whether a part of a path without slashes is more than a name. -/
def isOpen : Pattern → Bool
  | [] => false
  | ⟨'*', true⟩ :: _ | ⟨'?', true⟩ :: _ => true
  | ⟨'[', true⟩ :: rest => closesBracket rest || isOpen rest
  | _ :: rest => isOpen rest

/-- The parts of a path between its slashes. -/
def parts (pattern : Pattern) : List Pattern :=
  pattern.splitOnP fun glyph => glyph.char = '/'

/-- The names in a directory that a part of a path stands for; hidden ones only when the part begins with a dot. -/
def namesIn (tree : FileTree) (directory : Location) (part : Pattern) : List (List Char) :=
  let entries := (tree.listing directory).filterMap fun (location, _) =>
    match location with
    | [name] => some (Script.ofBytes name)
    | _ => none
  let hidden := (part.head?.map Glyph.char) = some '.'
  -- The two names that every directory has are not entries of the tree.
  let all := if hidden then ['.'] :: ['.', '.'] :: entries else entries
  all.filter fun name =>
    (hidden || name.head? ≠ some '.') && admits (part.length + name.length + 1) part name

/-- Whether something stands at a path; a link at its end is not followed. -/
def isThere (tree : FileTree) (here : Location) (path : Path) : Bool :=
  match tree.walk .removing here path with
  | .ok (.directory _) => true
  | .ok (.named parent name false) => (tree.lookup (parent ++ [name])).isSome
  | .ok (.named _ _ true) =>
    match tree.find here path with
    | .ok _ => true
    | .error _ => false
  | .error _ => false

/-- The paths behind a beginning that the parts of a path stand for. -/
def pathsFrom (tree : FileTree) (here : Location) : List Char → List Pattern → List (List Char)
  | _, [] => []
  | opening, part :: rest =>
    if isOpen part then
      -- Only parts that are more than a name look into a directory.
      let directory := if opening = [] then ['.'] else opening
      match tree.find here ⟨Script.toBytes directory⟩ with
      | .error _ => []
      | .ok location =>
        if tree.lookup location ≠ some .directory then []
        else
          (namesIn tree location part).flatMap fun name =>
            if rest = [] then [opening ++ name] else pathsFrom tree here (opening ++ name ++ ['/']) rest
    else if rest = [] then
      -- The last part is a name: the path counts if something stands there.
      let path := opening ++ text part
      if isThere tree here ⟨Script.toBytes path⟩ then [path] else []
    else pathsFrom tree here (opening ++ text part ++ ['/']) rest

/-- The paths that a pattern stands for, in the order of their bytes; none when it is no more than a path. -/
def paths (tree : FileTree) (here : Location) (pattern : Pattern) : List (List Char) :=
  let parts := (settle pattern).parts
  if parts.any isOpen then
    (pathsFrom tree here [] parts).mergeSort Script.comesBefore
  else []

end Pattern

end ImageHeader.Shell
