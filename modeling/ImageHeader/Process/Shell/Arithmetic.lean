import ImageHeader.Process.Shell.Variable

/-! Arithmetic expressions of the shell over whole numbers of 64 bits. -/

namespace ImageHeader.Shell

/-- A token of an expression. -/
inductive Term where
  | number (value : Int)
  | variableName (name : List Char)
  | operator (name : String)
  /-- A character that means nothing. -/
  | stray
  deriving DecidableEq, Repr

/-- The operators, longer ones before those that open them. -/
def operators : List String :=
  ["<<=", ">>=", "<=", ">=", "==", "!=", "&&", "||", "<<", ">>", "+=", "-=", "*=", "/=", "%=", "&=", "|=", "^=",
    "+", "-", "*", "/", "%", "<", ">", "!", "(", ")", "~", "&", "|", "^", "?", ":", "="]

/-- A number cut to 64 bits. -/
def wrap (value : Int) : Int := value.bmod 0x10000000000000000

/-- The number nearest to one among those of 64 bits. -/
def clamp (value : Int) : Int :=
  if value > 0x7FFFFFFFFFFFFFFF then 0x7FFFFFFFFFFFFFFF
  else if value < -0x8000000000000000 then -0x8000000000000000
  else value

/-- The value of a digit in some base, if it is one. -/
def digit? (base : Nat) (char : Char) : Option Nat :=
  (Hex.value? char).filter fun value => decide (value < base)

/-- Reads the digits of a number: with a leading zero in octal, after `0x` in hexadecimal. -/
def readNumeral (chars : List Char) : Nat × List Char :=
  let spelled (base : Nat) (chars : List Char) : Nat × List Char :=
    let digits := chars.takeWhile fun char => (digit? base char).isSome
    (digits.foldl (fun total digit => total * base + (digit? base digit).getD 0) 0,
      chars.drop digits.length)
  match chars with
  | '0' :: 'x' :: digit :: rest =>
    -- Without a digit behind it, the letter is no part of the number, which is the zero before it.
    if (digit? 16 digit).isSome then spelled 16 (digit :: rest) else (0, 'x' :: digit :: rest)
  | '0' :: 'X' :: digit :: rest =>
    if (digit? 16 digit).isSome then spelled 16 (digit :: rest) else (0, 'X' :: digit :: rest)
  | '0' :: rest => spelled 8 ('0' :: rest)
  | chars => spelled 10 chars

/-- The terms of an expression; `fuel` bounds their number. -/
def terms : Nat → List Char → List Term
  | 0, _ => []
  | fuel + 1, chars =>
    match chars with
    | [] => []
    | char :: rest =>
      if char = ' ' ∨ char = '\t' ∨ char = '\n' then terms fuel rest
      else if char.isDigit then
        let (value, after) := readNumeral (char :: rest)
        .number (clamp value) :: terms fuel after
      else if Script.opensName char then
        .variableName (chars.takeWhile Script.continuesName) ::
          terms fuel (chars.dropWhile Script.continuesName)
      else
        match operators.find? fun name => name.toList.isPrefixOf chars with
        | some name => .operator name :: terms fuel (chars.drop name.length)
        | none => .stray :: terms fuel rest

/-- The number that the value of a variable spells; an empty value is zero. -/
def integer? (text : List Char) : Option Int :=
  let isSpace (char : Char) : Bool := char = ' ' || ('\t' ≤ char && char ≤ '\r')
  let (negative, digits) :=
    match text.dropWhile isSpace with
    | '-' :: digits => (true, digits)
    | '+' :: digits => (false, digits)
    | digits => (false, digits)
  if !(digits.head?.any Char.isDigit) then if text.all isSpace then some 0 else none
  else
    let (magnitude, rest) := readNumeral digits
    let value : Int := if negative then -(magnitude : Int) else magnitude
    if rest.all isSpace && clamp value = value then some value else none

/-- How loosely an operator binds the values beside it; the others bind none. -/
def looseness? (name : String) : Option Nat :=
  match name with
  | "*" | "/" | "%" => some 0
  | "+" | "-" => some 1
  | "<<" | ">>" => some 2
  | "<" | ">" | "<=" | ">=" => some 3
  | "==" | "!=" => some 4
  | "&" => some 5
  | "^" => some 6
  | "|" => some 7
  | _ => none

/-- The operator whose result an assignment stores, if the operator assigns; none for the plain one. -/
def assigning? (name : String) : Option String :=
  match name with
  | "=" => some ""
  | "+=" => some "+"
  | "-=" => some "-"
  | "*=" => some "*"
  | "/=" => some "/"
  | "%=" => some "%"
  | "&=" => some "&"
  | "|=" => some "|"
  | "^=" => some "^"
  | "<<=" => some "<<"
  | ">>=" => some ">>"
  | _ => none

/-- The value of a truth. -/
def ofTruth (truth : Bool) : Int := if truth then 1 else 0

/-- The bits of a number as a natural number. -/
def bitsOf (value : Int) : Nat := (value % 0x10000000000000000).toNat

/-- The value of an operator between two values; none for a division by zero. -/
def combine? (name : String) (left right : Int) : Option Int :=
  -- Only the low bits of a shift count.
  let shift := bitsOf right % 64
  match name with
  | "" => some right
  | "*" => some (wrap (left * right))
  | "/" => if right = 0 then none else some (wrap (left.tdiv right))
  | "%" => if right = 0 then none else some (wrap (left.tmod right))
  | "+" => some (wrap (left + right))
  | "-" => some (wrap (left - right))
  | "<<" => some (wrap (left * Nat.pow 2 shift))
  | ">>" => some (left.fdiv (Nat.pow 2 shift))
  | "<" => some (ofTruth (left < right))
  | ">" => some (ofTruth (left > right))
  | "<=" => some (ofTruth (left ≤ right))
  | ">=" => some (ofTruth (left ≥ right))
  | "==" => some (ofTruth (left = right))
  | "!=" => some (ofTruth (left ≠ right))
  | "&" => some (wrap (Nat.land (bitsOf left) (bitsOf right)))
  | "^" => some (wrap (Nat.xor (bitsOf left) (bitsOf right)))
  | "|" => some (wrap (Nat.lor (bitsOf left) (bitsOf right)))
  | _ => none

/-- Gives up an expression. -/
def failExpression {α : Type} (expression : List Char) (reason : String) : Act α :=
  fail (chars "arithmetic expression: " ++ chars reason ++ chars ": \"" ++ expression ++ ['"'])

/-- The value of a variable as a number. -/
def numberOf (name : List Char) : Act Int := do
  let text := ((← get).valueOf? name).getD []
  match integer? text with
  | some value => return value
  | none => failNumber text

/-- The value of an operator between two values. -/
def combine (expression : List Char) (name : String) (left right : Int) : Act Int :=
  match combine? name left right with
  | some value => pure value
  | none => failExpression expression "division by zero"

mutual

/-- The value of terms up to one that does not belong to it, and the terms from there on; what is `idle` only is read,
and changes nothing. -/
def assignment (expression : List Char) : Nat → Bool → List Term → Act (Int × List Term)
  | 0, _, terms => return (0, terms)
  | fuel + 1, idle, terms =>
    match terms with
    | .variableName name :: .operator operator :: rest => do
      match assigning? operator with
      | none => conditional expression fuel idle terms
      | some operator =>
        let (value, rest) ← assignment expression fuel idle rest
        if idle then return (value, rest)
        -- The old value is read after the right side, which may itself assign it.
        let left ← if operator = "" then pure 0 else numberOf name
        let value ← combine expression operator left value
        setVariable name (chars (toString value))
        return (value, rest)
    | terms => conditional expression fuel idle terms

/-- The value of a condition with its two outcomes, or of a disjunction. -/
def conditional (expression : List Char) : Nat → Bool → List Term → Act (Int × List Term)
  | 0, _, terms => return (0, terms)
  | fuel + 1, idle, terms => do
    let (condition, rest) ← disjunction expression fuel idle terms
    match rest with
    | .operator "?" :: rest =>
      -- The branch that does not count is still read, for its end has to be found.
      let (first, rest) ← assignment expression fuel (idle || condition = 0) rest
      match rest with
      | .operator ":" :: rest =>
        let (second, rest) ← conditional expression fuel (idle || condition ≠ 0) rest
        return (if condition ≠ 0 then first else second, rest)
      | _ => failExpression expression "expecting ':'"
    | rest => return (condition, rest)

/-- The value of alternatives; the later ones are idle once one holds. -/
def disjunction (expression : List Char) : Nat → Bool → List Term → Act (Int × List Term)
  | 0, _, terms => return (0, terms)
  | fuel + 1, idle, terms => do
    let (first, rest) ← conjunction expression fuel idle terms
    match rest with
    | .operator "||" :: rest =>
      let (second, rest) ← disjunction expression fuel (idle || first ≠ 0) rest
      return (ofTruth (first ≠ 0 || second ≠ 0), rest)
    | rest => return (first, rest)

/-- The value of conditions that must all hold; the later ones are idle once one fails. -/
def conjunction (expression : List Char) : Nat → Bool → List Term → Act (Int × List Term)
  | 0, _, terms => return (0, terms)
  | fuel + 1, idle, terms => do
    let (first, rest) ← binary expression fuel idle terms
    match rest with
    | .operator "&&" :: rest =>
      let (second, rest) ← conjunction expression fuel (idle || first = 0) rest
      return (ofTruth (first ≠ 0 && second ≠ 0), rest)
    | rest => return (first, rest)

/-- The value of operators between values. -/
def binary (expression : List Char) : Nat → Bool → List Term → Act (Int × List Term)
  | 0, _, terms => return (0, terms)
  | fuel + 1, idle, terms => do
    let (left, rest) ← operand expression fuel idle terms
    chain expression fuel idle 8 left rest

/-- Goes on with operators that bind more tightly than `limit` after a value. -/
def chain (expression : List Char) : Nat → Bool → Nat → Int → List Term → Act (Int × List Term)
  | 0, _, _, left, terms => return (left, terms)
  | fuel + 1, idle, limit, left, terms =>
    match terms with
    | .operator name :: rest => do
      match looseness? name with
      | none => return (left, terms)
      | some looseness =>
        -- An operator that binds no tighter belongs to whoever called, so equal ones group from the left.
        if limit ≤ looseness then return (left, terms)
        let (right, rest) ← operand expression fuel idle rest
        let (right, rest) ← chain expression fuel idle looseness right rest
        let value ← if idle then pure right else combine expression name left right
        chain expression fuel idle limit value rest
    | terms => return (left, terms)

/-- The value of a number, a variable, a signed value or an expression in parentheses. -/
def operand (expression : List Char) : Nat → Bool → List Term → Act (Int × List Term)
  | 0, _, terms => return (0, terms)
  | fuel + 1, idle, terms =>
    match terms with
    | .number value :: rest => return (value, rest)
    | .variableName name :: rest => do
      let value ← if idle then pure 0 else numberOf name
      return (value, rest)
    | .operator "+" :: rest => operand expression fuel idle rest
    | .operator "-" :: rest => do
      let (value, rest) ← operand expression fuel idle rest
      return (wrap (-value), rest)
    | .operator "!" :: rest => do
      let (value, rest) ← operand expression fuel idle rest
      return (ofTruth (value = 0), rest)
    | .operator "~" :: rest => do
      let (value, rest) ← operand expression fuel idle rest
      return (-value - 1, rest)
    | .operator "(" :: rest => do
      match ← assignment expression fuel idle rest with
      | (value, .operator ")" :: rest) => return (value, rest)
      | _ => failExpression expression "expecting ')'"
    | _ => failExpression expression "expecting primary"

end

/-- The value of an expression. -/
def evaluate (expression : List Char) : Act Int := do
  let fuel := expression.length * 8 + 16
  match ← assignment expression fuel false (terms (expression.length + 1) expression) with
  | (value, []) => return value
  | _ => failExpression expression "expecting EOF"

end ImageHeader.Shell
