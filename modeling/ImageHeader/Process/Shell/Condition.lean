import ImageHeader.Process.Shell.Stream

/-! Conditions of the shell: tests of texts, numbers and files. -/

namespace ImageHeader.Shell

/-- What a word means within a condition. -/
inductive Meaning where
  | finish
  | operand
  /-- A test of the word after it. -/
  | unary
  /-- A comparison of the words beside it. -/
  | binary
  | negation
  | both
  | either
  | opening
  | closing
  deriving DecidableEq, Repr

/-- What a word means by itself. -/
def meaning (word : List Char) : Meaning :=
  match String.ofList word with
  | "!" => .negation
  | "-a" => .both
  | "-o" => .either
  | "(" => .opening
  | ")" => .closing
  | text =>
    if ["=", "!=", "<", ">", "-eq", "-ne", "-ge", "-gt", "-le", "-lt", "-nt", "-ot", "-ef"].contains text then
      .binary
    else if ["-r", "-w", "-x", "-e", "-f", "-d", "-c", "-b", "-p", "-u", "-g", "-k", "-s", "-t", "-z", "-n", "-h",
        "-O", "-G", "-L", "-S"].contains text then .unary
    else .operand

/-- What the first of some words means in its place. -/
def meaningIn (words : List (List Char)) : Meaning :=
  match words with
  | [] => .finish
  | word :: rest =>
    match meaning word, rest with
    | .unary, [] => .operand
    | .unary, [_] => .unary
    -- A comparison that follows makes an operand of it.
    | .unary, next :: _ => if meaning next = .binary then .operand else .unary
    | .opening, [] => .operand
    | found, _ => found

/-- What stands at a path, with links followed. -/
def found? (shell : Shell) (path : List Char) : Option Entry :=
  match shell.tree.find shell.here (pathOf path) with
  | .ok location => some (shell.tree.entryAt location)
  | .error _ => none

/-- Whether a link stands at a path. -/
def isLink (shell : Shell) (path : List Char) : Bool :=
  match shell.tree.walk .removing shell.here (pathOf path) with
  | .ok (.named parent name false) =>
    match shell.tree.lookup (parent ++ [name]) with
    | some (.link _) => true
    | _ => false
  | _ => false

/-- The verdict of a test of one word. -/
def testOne (shell : Shell) (operator operand : List Char) : Except (List Char) Bool :=
  let entry := shell.found? operand
  match String.ofList operator with
  | "-z" => .ok operand.isEmpty
  | "-n" => .ok !operand.isEmpty
  | "-t" =>
    match decimal? operand with
    | some _ => .ok false
    | none => .error (chars "Illegal number: " ++ operand)
  | "-e" | "-r" | "-w" | "-O" | "-G" => .ok entry.isSome
  | "-f" => .ok (match entry with | some (.file ..) => true | some (.special .shell) => true | _ => false)
  | "-d" => .ok (entry == some .directory)
  | "-c" =>
    .ok (match entry with | some (.special .null) => true | some (.special .full) => true | _ => false)
  | "-s" =>
    .ok (match entry with
      | some (.file content _) => !content.isEmpty
      | some (.special kind) => decide (kind = .shell)
      | other => other.isSome)
  | "-x" =>
    .ok (match entry with
      | some (.file _ executable) => executable
      | some (.special kind) => decide (kind = .shell)
      | other => other.isSome)
  | "-h" | "-L" => .ok (shell.isLink operand)
  | _ => .ok false

/-- The verdict of a comparison of two words. -/
def testTwo (shell : Shell) (left operator right : List Char) : Except (List Char) Bool :=
  let numbers (holds : Int → Int → Bool) : Except (List Char) Bool :=
    match decimal? left, decimal? right with
    | some left, some right => .ok (holds left right)
    | none, _ => .error (chars "Illegal number: " ++ left)
    | _, none => .error (chars "Illegal number: " ++ right)
  match String.ofList operator with
  | "=" => .ok (left == right)
  | "!=" => .ok (left != right)
  | "<" => .ok (decide (left < right))
  | ">" => .ok (decide (right < left))
  | "-eq" => numbers fun left right => left == right
  | "-ne" => numbers fun left right => left != right
  | "-lt" => numbers fun left right => left < right
  | "-le" => numbers fun left right => left ≤ right
  | "-gt" => numbers fun left right => left > right
  | "-ge" => numbers fun left right => left ≥ right
  -- Two paths are one file when they lead to one place.
  | "-ef" =>
    match shell.tree.find shell.here (pathOf left), shell.tree.find shell.here (pathOf right) with
    | .ok left, .ok right => .ok (left == right)
    | _, _ => .ok false
  | _ => .ok false

/-- A verdict, with the last word that it took into account and those after it; or a complaint. -/
abbrev Verdict := Except (List Char) (Bool × List (List Char))

mutual

/-- The verdict of alternatives. -/
def testEither (shell : Shell) : Nat → Meaning → List (List Char) → Verdict
  | 0, _, words => .ok (false, words)
  | fuel + 1, found, words => do
    let (first, words) ← testBoth shell fuel found words
    if meaningIn words.tail = .either then
      let words := words.tail.tail
      let (second, words) ← testEither shell fuel (meaningIn words) words
      return (first || second, words)
    return (first, words)

/-- The verdict of conditions that must all hold. -/
def testBoth (shell : Shell) : Nat → Meaning → List (List Char) → Verdict
  | 0, _, words => .ok (false, words)
  | fuel + 1, found, words => do
    let (first, words) ← testNegated shell fuel found words
    if meaningIn words.tail = .both then
      let words := words.tail.tail
      -- Both sides are looked at, for a complaint about the second counts in any case.
      let (second, words) ← testBoth shell fuel (meaningIn words) words
      return (first && second, words)
    return (first, words)

/-- The verdict of a condition, perhaps turned around. -/
def testNegated (shell : Shell) : Nat → Meaning → List (List Char) → Verdict
  | 0, _, words => .ok (false, words)
  | fuel + 1, found, words => do
    if found ≠ .negation then testPrimary shell fuel found words
    else
      let next := meaningIn words.tail
      let (verdict, words) ←
        testNegated shell fuel next (if next = .finish then words else words.tail)
      return (!verdict, words)

/-- The verdict of one test, or of conditions in parentheses. -/
def testPrimary (shell : Shell) : Nat → Meaning → List (List Char) → Verdict
  | 0, _, words => .ok (false, words)
  | fuel + 1, found, words => do
    match found, words with
    | .finish, words => return (false, words)
    | .opening, _ :: words =>
      if meaningIn words = .closing then return (false, words)
      let (verdict, words) ← testEither shell fuel (meaningIn words) words
      if meaningIn words.tail ≠ .closing then throw (chars "closing paren expected")
      return (verdict, words.tail)
    | .unary, [operator] => throw (operator ++ chars ": argument expected")
    | .unary, operator :: operand :: rest => return (← testOne shell operator operand, operand :: rest)
    | _, left :: operator :: rest =>
      if meaningIn (operator :: rest) ≠ .binary then return (!left.isEmpty, left :: operator :: rest)
      match rest with
      | [] => throw (operator ++ chars ": argument expected")
      | right :: rest => return (← testTwo shell left operator right, right :: rest)
    | _, words => return (words.head?.any fun word => !word.isEmpty, words)

end

/-- The verdict of a condition; one of no words fails. -/
def judge (shell : Shell) : Nat → Bool → List (List Char) → Except (List Char) Bool
  | 0, turned, _ => .ok turned
  | fuel + 1, turned, words =>
    let whole (found : Meaning) (words : List (List Char)) : Except (List Char) Bool := do
      let (verdict, words) ← testEither shell (words.length * 4 + 8) found words
      match words with
      -- Something is left behind the verdict.
      | last :: _ :: _ => throw ((if last = [] then [] else last ++ chars ": ") ++ chars "unexpected operator")
      | _ => return verdict != turned
    let comparison := words.length = 3 && ((words[1]?).map meaning) = some .binary
    -- With few words their number decides what they mean, before any of them is taken for an operator.
    if words.isEmpty then .ok turned
    else if comparison then whole .operand words
    else if words.length = 3 || words.length = 4 then
      if words.head? = some ['('] && words.getLast? = some [')'] then
        let inner := words.tail.dropLast
        whole (meaningIn inner) inner
      else if words.head? = some ['!'] then judge shell fuel true words.tail
      else whole (meaningIn words) words
    else whole (meaningIn words) words

/-- Tests a condition; that of the name `[` ends with a bracket. -/
def testBuiltin (name : List Char) (words : List (List Char)) : Act Nat := do
  let words ←
    if name = ['['] then
      if words.getLast? = some [']'] then pure words.dropLast else fail (chars "missing ]")
    else pure words
  match judge (← get) (words.length + 1) false words with
  | .ok verdict => return if verdict then 0 else 1
  | .error complaint => fail complaint

end ImageHeader.Shell
