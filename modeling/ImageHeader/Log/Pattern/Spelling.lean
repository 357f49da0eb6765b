import ImageHeader.Log.Pattern
import ImageHeader.Text.Alphanumeric
import ImageHeader.Text.Blank
import ImageHeader.Text.Hex

/-! Spellings of patterns: reading a text as a pattern. A count in braces has no place in a filter and is refused. -/

namespace ImageHeader.Log.Pattern

/-- A place in the text of a pattern. -/
structure Reader where
  /-- The characters from here on. -/
  rest : List Char
  /-- Whether blanks and comments mean nothing here. -/
  spaced : Bool := false
  /-- The names that groups have been given so far. -/
  names : List (List Char) := []

namespace Reader

/-- The place at other characters. -/
def move (reader : Reader) (rest : List Char) : Reader := { reader with rest := rest }

/-- The characters after blanks and comments, of which one may have begun already. -/
def dropSpace : Bool → List Char → List Char
  | _, [] => []
  -- A comment lasts to the end of its line.
  | true, char :: rest => dropSpace (char ≠ '\n') rest
  | false, char :: rest =>
    if Blank.isBlank char then dropSpace false rest
    else if char = '#' then dropSpace true rest
    else char :: rest

/-- The place after blanks and comments, where these mean nothing. -/
def settle (reader : Reader) : Reader :=
  if reader.spaced then reader.move (dropSpace false reader.rest) else reader

/-- The place after some characters that mean nothing, if the text goes on there. -/
def resume? (reader : Reader) (rest : List Char) : Option Reader :=
  let next := (reader.move rest).settle
  if next.rest.isEmpty then none else some next

/-- The character that a hyphen here stands before; blanks and the sign of a comment are looked past. -/
def afterHyphen (reader : Reader) : Option Char :=
  let rest := reader.rest.drop 1
  if !reader.spaced then rest.head?
  else
    match rest.dropWhile Blank.isBlank with
    | '#' :: rest => (rest.dropWhile Blank.isBlank).head?
    | found => found.head?

end Reader

/-- Reads digits of a character's number; blanks may stand between them where they mean nothing. -/
def readDigits? : Nat → Nat → Reader → Option (Nat × Reader)
  | 0, value, reader => some (value, reader.settle)
  | count + 1, value, reader => do
    let reader := reader.settle
    let first ← reader.rest.head?
    let digit ← Hex.value? first
    readDigits? count (value * 16 + digit) (reader.move (reader.rest.drop 1))

/-- Reads a character given by its number. -/
def readNumbered? (digits : Nat) (reader : Reader) : Option (Pattern × Reader) := do
  let (value, next) ← readDigits? digits 0 reader
  -- A number that is no character is no escape either.
  if Nat.isValidChar value then some (.literal (Char.ofNat value) (digits = 2), next) else none

/-- Reads the name of a property after its letter. -/
def readProperty? (reader : Reader) : Option (Pattern × Reader) := do
  let reader ← reader.resume? reader.rest
  let first ← reader.rest.head?
  if first = '\\' || first = '\x7b' then none
  else some (.property, (reader.move (reader.rest.drop 1)).settle)

/-- The pattern that a letter or a sign stands for after a backslash. -/
def escaped? (char : Char) : Option Pattern :=
  match char with
  | 'd' | 's' | 'w' => some (.family false)
  | 'D' | 'S' | 'W' => some (.family true)
  | 'a' => some (.literal '\x07' false)
  | 'f' => some (.literal '\x0c' false)
  | 't' => some (.literal '\t' false)
  | 'n' => some (.literal '\n' false)
  | 'r' => some (.literal '\r' false)
  | 'v' => some (.literal '\x0b' false)
  | 'A' | 'z' => some (.edge false)
  | 'b' | 'B' | '<' | '>' => some (.edge true)
  | _ => if char.toNat < 0x80 && !char.isAlphanum then some (.literal char false) else none

/-- Reads what follows a backslash. -/
def readEscape? (reader : Reader) : Option (Pattern × Reader) :=
  match reader.rest with
  | [] => none
  | char :: rest =>
    let next := reader.move rest
    match char with
    | 'x' => readNumbered? 2 next
    | 'u' => readNumbered? 4 next
    | 'U' => readNumbered? 8 next
    | 'p' | 'P' => readProperty? next
    | _ => (escaped? char).map fun pattern => (pattern, next)

/-- Reads a character or an escape between brackets. -/
def readItem? (reader : Reader) : Option (Pattern × Reader) :=
  match reader.rest with
  | [] => none
  | '\\' :: rest => readEscape? (reader.move rest)
  | char :: rest => some (.literal char false, reader.move rest)

/-- The part of a bracket that a single item makes. -/
def member? : Pattern → Option Bracket
  | .literal char byte => some (.literal char byte)
  | .family inverse => some (.family inverse)
  | .property => some .property
  | _ => none

/-- Reads an item or a range of characters between brackets. -/
def readMember? (reader : Reader) : Option (Bracket × Reader) := do
  let (first, next) ← readItem? reader
  let next ← next.resume? next.rest
  if next.rest.head? ≠ some '-' || [some ']', some '-'].contains next.afterHyphen then
    return (← member? first, next)
  else
    let next ← next.resume? (next.rest.drop 1)
    let (last, next) ← readItem? next
    match first, last with
    -- Only single characters make a range, and in their order.
    | .literal low _, .literal high _ => if low ≤ high then return (.range low high, next) else none
    | _, _ => none

/-- The sets of ASCII characters that have names. -/
def setNames : List String :=
  ["alnum", "alpha", "ascii", "blank", "cntrl", "digit", "graph", "lower", "print", "punct",
    "space", "upper", "word", "xdigit"]

/-- Reads the name of a set after its opening bracket. -/
def readNamed? (reader : Reader) : Option (Bracket × Reader) :=
  let named (inverse : Bool) (chars : List Char) : Option (Bracket × Reader) :=
    let name := chars.takeWhile (· ≠ ':')
    match chars.drop name.length with
    | ':' :: ']' :: rest =>
      if setNames.contains (String.ofList name) then some (.named inverse, reader.move rest) else none
    | _ => none
  match reader.rest with
  | ':' :: '^' :: rest => named true rest
  | ':' :: rest => named false rest
  -- What is no name is read as a bracket within the bracket.
  | _ => none

/-- The bracket of some members, last first. -/
def unionOf : List Bracket → Bracket
  | [] => .empty
  | [member] => member
  | members => .union members.reverse

/-- The bracket of what stands before an operator, if anything, and the members after it. -/
def operate (left : Option Bracket) (members : List Bracket) : Bracket :=
  match left with
  | none => unionOf members
  | some left => .operation left (unionOf members)

/-- Reads the hyphens that stand for themselves at the beginning of a bracket. -/
def readHyphens? : Nat → List Bracket → Reader → Option (List Bracket × Reader)
  | 0, _, _ => none
  | fuel + 1, members, reader =>
    match reader.rest with
    | '-' :: rest => do
      let next ← reader.resume? rest
      readHyphens? fuel (.literal '-' false :: members) next
    | _ => some (members, reader)

/-- Reads the beginning of a bracket after its sign: whether it is an inverse, and the members that need no escape
there. -/
def readHead? (reader : Reader) : Option (Bool × List Bracket × Reader) := do
  let next ← reader.resume? reader.rest
  let inverse := next.rest.head? = some '^'
  let next ← if inverse then next.resume? (next.rest.drop 1) else some next
  let (members, next) ← readHyphens? (next.rest.length + 1) [] next
  if members.isEmpty && next.rest.head? = some ']' then
    return (inverse, [.literal ']' false], ← next.resume? (next.rest.drop 1))
  else return (inverse, members, next)

/-- Reads a bracket up to its end: what stands before the operator reached and the members after it are given. -/
def readMembers? : Nat → Option Bracket → List Bracket → Reader → Option (Bracket × Reader)
  | 0, _, _, _ => none
  | fuel + 1, left, members, reader =>
    let reader := reader.settle
    match reader.rest with
    | [] => none
    -- A bracket that is never closed has no meaning, so the end must come before that of the text.
    | ']' :: rest => some (operate left members, reader.move rest)
    -- An operator takes all that stands before it as its left side.
    | '&' :: '&' :: rest | '-' :: '-' :: rest | '~' :: '~' :: rest =>
      readMembers? fuel (some (operate left members)) [] (reader.move rest)
    | '[' :: rest =>
      match readNamed? (reader.move rest) with
      | some (member, next) => readMembers? fuel left (member :: members) next
      | none => do
        let (inverse, head, next) ← readHead? (reader.move rest)
        let (inner, next) ← readMembers? fuel none head next
        readMembers? fuel left (.nested inverse inner :: members) next
    | _ => do
      let (member, next) ← readMember? reader
      readMembers? fuel left (member :: members) next

/-- Reads a bracket after its sign. -/
def readBracket? (reader : Reader) : Option (Pattern × Reader) := do
  let (inverse, head, next) ← readHead? reader
  let (inner, next) ← readMembers? (next.rest.length + 1) none head next
  return (.bracket inverse inner, next)

/-- The letters that change how a pattern is taken. -/
def changeLetters : List Char := ['i', 'm', 's', 'U', 'u', 'R', 'x']

/-- The change that some letters make, each of them given once; those after a hyphen end. -/
def changeOf? (letters : List Char) : Option Change :=
  let begun := letters.takeWhile (· ≠ '-')
  let ended := letters.drop (begun.length + 1)
  -- A hyphen must have a letter behind it.
  let dangling := begun.length < letters.length && ended.isEmpty
  let all := begun ++ ended
  if dangling || !all.all changeLetters.contains || all.eraseDups.length ≠ all.length then none
  else some ⟨begun, ended⟩

/-- Whether a character may stand in the name of a group. -/
def isNameChar (first : Bool) (char : Char) : Bool :=
  char = '_' ||
    (if first then Alphanumeric.isLetter char
    else ['.', '[', ']'].contains char || Alphanumeric.contains char)

/-- Reads the name of a group up to its closing bracket; no name is given twice. -/
def readName? (reader : Reader) : Option Reader :=
  let name := reader.rest.takeWhile (· ≠ '>')
  let proper :=
    match name with
    | [] => false
    | first :: rest => isNameChar true first && rest.all (isNameChar false)
  match reader.rest.drop name.length with
  | '>' :: rest =>
    -- A name that was given before may not be given again.
    if proper && !reader.names.contains name then
      some { reader with rest := rest, names := name :: reader.names }
    else none
  | _ => none

/-- Reads the beginning of a group after its sign: a change, and whether a group follows to which alone it applies. -/
def readOpening? (reader : Reader) : Option (Change × Bool × Reader) :=
  let reader := reader.settle
  match reader.rest with
  -- To look around without moving is not supported.
  | '?' :: '=' :: _ | '?' :: '!' :: _ | '?' :: '<' :: '=' :: _ | '?' :: '<' :: '!' :: _ => none
  | '?' :: 'P' :: '<' :: rest | '?' :: '<' :: rest =>
    (readName? (reader.move rest)).map fun next => ({}, true, next)
  | '?' :: rest => do
    let letters := rest.takeWhile fun char => char ≠ ':' && char ≠ ')'
    let change ← changeOf? letters
    match rest.drop letters.length with
    | ':' :: rest => return (change, true, reader.move rest)
    | ')' :: rest => if letters.isEmpty then none else return (change, false, reader.move rest)
    | _ => none
  | _ => some ({}, true, reader)

/-- Reads a part that is no group. -/
def readPart? (reader : Reader) : Option (Pattern × Reader) :=
  match reader.rest with
  | [] => none
  | '[' :: rest => readBracket? (reader.move rest)
  | '\\' :: rest => readEscape? (reader.move rest)
  | '.' :: rest => some (.dot, reader.move rest)
  | '^' :: rest | '$' :: rest => some (.edge false, reader.move rest)
  | '\x7b' :: _ => none
  | char :: rest => some (.literal char false, reader.move rest)

/-- Repeats the last of some parts, which are given last first; there must be one that is no mere change. -/
def repeatLast? : List Pattern → Option (List Pattern)
  | [] | .change _ :: _ => none
  | part :: parts => some (.repeated part :: parts)

/-- The pattern of some parts in a row, given last first. -/
def sequenceOf : List Pattern → Pattern
  | [] => .empty
  | [part] => part
  | parts => .sequence parts.reverse

/-- The pattern of some alternatives, given last first. -/
def alternativesOf : List Pattern → Pattern
  | [pattern] => pattern
  | patterns => .alternatives patterns.reverse

/-- Reads up to the end of a group or of the text; earlier alternatives and the parts of this one are given last
first. -/
def readAlternatives? : Nat → List Pattern → List Pattern → Reader → Option (Pattern × Reader)
  | 0, _, _, _ => none
  | fuel + 1, earlier, parts, reader =>
    let reader := reader.settle
    match reader.rest with
    | [] | ')' :: _ => some (alternativesOf (sequenceOf parts :: earlier), reader)
    | '|' :: rest => readAlternatives? fuel (sequenceOf parts :: earlier) [] (reader.move rest)
    | '?' :: rest | '*' :: rest | '+' :: rest => do
      let parts ← repeatLast? parts
      -- A question mark behind the sign changes how much is taken, not what is matched.
      let rest := if rest.head? = some '?' then rest.drop 1 else rest
      readAlternatives? fuel earlier parts (reader.move rest)
    | '(' :: rest => do
      let (letters, grouped, next) ← readOpening? (reader.move rest)
      -- A change holds for the rest of the group around it; that of a group for the group alone.
      let next := { next with spaced := letters.settle 'x' reader.spaced }
      if grouped then
        let (inner, after) ← readAlternatives? fuel [] [] next
        match after.rest with
        | ')' :: rest =>
          readAlternatives? fuel earlier (.group letters inner :: parts)
            { after with rest := rest, spaced := reader.spaced }
        | _ => none
      else readAlternatives? fuel earlier (.change letters :: parts) next
    | _ => do
      let (part, next) ← readPart? reader
      readAlternatives? fuel earlier (part :: parts) next

/-- The pattern that a text spells. -/
def ofText? (text : String) : Option Pattern := do
  let chars := text.toList
  let (pattern, next) ← readAlternatives? (chars.length + 1) [] [] { rest := chars }
  if next.rest.isEmpty && pattern.depth ≤ depthLimit then some pattern else none

/-- Whether a text is a pattern that has a meaning. -/
def isMeaningful (text : String) : Bool :=
  (ofText? text).any fun pattern => (pattern.modeAfter? {}).isSome

end ImageHeader.Log.Pattern
