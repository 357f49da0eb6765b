import ImageHeader.Decimal.Shortest
import ImageHeader.Json.Number
import ImageHeader.Json.Text
import ImageHeader.Text.Quoted

/-! JSON values of any shape: passing over one, and telling of which type it is. -/

namespace ImageHeader.Json

/-- Whether a character may stand between the tokens of a text. -/
def isBlank (char : Char) : Bool := char = ' ' || char = '\n' || char = '\t' || char = '\r'

/-- Passes over the characters between tokens. -/
def skipBlank (chars : List Char) : List Char := chars.dropWhile isBlank

/-- Nothing is added between tokens. -/
theorem skipBlank_length (chars : List Char) : (skipBlank chars).length ≤ chars.length :=
  (List.dropWhile_suffix isBlank).length_le

/-- Reads the rest of a word such as `null`. -/
def readWord (word chars : List Char) : Except Fault (List Char) :=
  match word, chars with
  -- What follows the word is not looked at: `nullx` fails later, at the letter that is too many.
  | [], _ => .ok chars
  | _ :: _, [] => .error .endInValue
  | expected :: word, char :: rest =>
    if char = expected then readWord word rest else .error .wordExpected

/-- A word is taken from the front. -/
theorem readWord_length {word chars rest : List Char} (read : readWord word chars = .ok rest) :
    rest.length ≤ chars.length := by
  -- One character goes for each character of the word.
  fun_induction readWord word chars with
  | case1 => simp_all
  | case2 => cases read
  | case3 =>
    rename_i ih
    have := ih read
    simp only [List.length_cons]
    omega
  | case4 => cases read

/-- Passes over a value that is neither a list nor an object. -/
def skipScalar (chars : List Char) : Except Fault (List Char) :=
  match chars with
  | 'n' :: rest => readWord "ull".toList rest
  | 't' :: rest => readWord "rue".toList rest
  | 'f' :: rest => readWord "alse".toList rest
  -- Only a minus may be a sign; a plus opens nothing.
  | '-' :: rest => Number.skip rest
  | '"' :: rest => skipText rest
  | first :: _ => if first.isDigit then Number.skip chars else .error .valueExpected
  | [] => .error .endInValue

/-- A scalar takes characters from the front. -/
theorem skipScalar_shorter {chars rest : List Char} (skipped : skipScalar chars = .ok rest) :
    rest.length < chars.length := by
  -- Words, numbers and texts are all taken from the front.
  unfold skipScalar at skipped
  split at skipped
  · have := readWord_length skipped
    simp only [List.length_cons]
    omega
  · have := readWord_length skipped
    simp only [List.length_cons]
    omega
  · have := readWord_length skipped
    simp only [List.length_cons]
    omega
  · have := Number.skip_shorter skipped
    simp only [List.length_cons]
    omega
  · have := skipText_shorter skipped
    simp only [List.length_cons]
    omega
  · split at skipped
    · exact Number.skip_shorter skipped
    · cases skipped
  · cases skipped

/-- What surrounds a value. -/
inductive Bracket where
  | list
  | object
  deriving DecidableEq, Repr

/-- The fault of a text that ends within a bracket. -/
def Bracket.unfinished : Bracket → Fault
  | .list => .endInList
  | .object => .endInObject

/-- The fault of a text that goes on neither with a comma nor with the end of a bracket. -/
def Bracket.unended : Bracket → Fault
  | .list => .listEndExpected
  | .object => .objectEndExpected

/-- The character that ends a bracket. -/
def Bracket.ending : Bracket → Char
  | .list => ']'
  | .object => '\x7d'

/-- Passes over a key and its colon. -/
def skipKey (chars : List Char) : Except Fault (List Char) :=
  match skipBlank chars with
  | '"' :: rest =>
    match skipText rest with
    | .error fault => .error fault
    | .ok rest =>
      match skipBlank rest with
      | ':' :: rest => .ok rest
      | [] => .error .endInObject
      | _ => .error .colonExpected
  | [] => .error .endInObject
  | _ => .error .keyNotText

/-- A key takes characters from the front. -/
theorem skipKey_shorter {chars rest : List Char} (skipped : skipKey chars = .ok rest) :
    rest.length < chars.length := by
  -- The quotes and the colon are dropped with what stands between them.
  unfold skipKey at skipped
  have outer := skipBlank_length chars
  split at skipped
  · rename_i after opened
    rw [opened] at outer
    split at skipped
    · cases skipped
    · rename_i last text
      have := skipText_shorter text
      have inner := skipBlank_length last
      split at skipped
      · rename_i colon
        rw [colon] at inner
        simp only [Except.ok.injEq] at skipped
        simp only [List.length_cons] at outer inner
        rw [← skipped]
        omega
      · cases skipped
      · cases skipped
  · cases skipped
  · cases skipped

/-- Where in a value a text is being passed over. -/
inductive Stage where
  /-- Right after a bracket was opened. -/
  | opened
  /-- Before a value. -/
  | value
  /-- After a value. -/
  | after
  deriving DecidableEq, Repr

/-- How many stages may follow at the same place. -/
def Stage.rank : Stage → Nat
  | .opened => 1
  | .value => 0
  | .after => 0

/-- Passes over the rest of the outermost value; `around` holds the brackets around the place, innermost first. -/
def skipFrom (stage : Stage) (around : List Bracket) (chars : List Char) :
    Except Fault (List Char) :=
  match stage with
  | .value =>
    -- Brackets are kept in a list and not in calls, so that a text nested deep takes no deep recursion.
    match blank : skipBlank chars with
    | '[' :: rest =>
      have : rest.length < chars.length := by
        have := skipBlank_length chars
        simp only [blank, List.length_cons] at this
        omega
      skipFrom .opened (.list :: around) rest
    | '\x7b' :: rest =>
      have : rest.length < chars.length := by
        have := skipBlank_length chars
        simp only [blank, List.length_cons] at this
        omega
      skipFrom .opened (.object :: around) rest
    | found =>
      match scalar : skipScalar found with
      | .error fault => .error fault
      | .ok rest =>
        have : rest.length < chars.length := by
          have := skipBlank_length chars
          have := skipScalar_shorter scalar
          simp only [blank] at *
          omega
        skipFrom .after around rest
  -- An empty bracket may close at once; what may not is a bracket after a comma.
  | .opened =>
    match around with
    | [] => .ok chars
    | bracket :: outer =>
      match blank : skipBlank chars with
      | [] => .error bracket.unfinished
      | first :: rest =>
        have : rest.length < chars.length := by
          have := skipBlank_length chars
          simp only [blank, List.length_cons] at this
          omega
        if first = bracket.ending then skipFrom .after outer rest
        else
          match bracket with
          -- The character is part of the first item and is not dropped.
          | .list => skipFrom .value around chars
          | .object =>
            match key : skipKey chars with
            | .error fault => .error fault
            | .ok rest =>
              have := skipKey_shorter key
              skipFrom .value around rest
  -- A value has ended: the outermost one ends the text, any other is followed by a comma or its bracket's end.
  | .after =>
    match around with
    | [] => .ok chars
    | bracket :: outer =>
      match blank : skipBlank chars with
      | [] => .error bracket.unfinished
      | first :: rest =>
        have : rest.length < chars.length := by
          have := skipBlank_length chars
          simp only [blank, List.length_cons] at this
          omega
        if first = bracket.ending then skipFrom .after outer rest
        else if first = ',' then
          match bracket with
          | .list => skipFrom .value around rest
          | .object =>
            match key : skipKey rest with
            | .error fault => .error fault
            | .ok last =>
              have := skipKey_shorter key
              skipFrom .value around last
        else .error bracket.unended
termination_by (chars.length, stage.rank)
decreasing_by all_goals grind [Stage.rank]

/-- Passes over one value of any shape. -/
def skipValue (chars : List Char) : Except Fault (List Char) :=
  skipFrom .value [] chars

/-- How fractions are told of: in places from a hundred-thousandth up to sixteen whole digits. -/
def fractionForm : Decimal.Form := ⟨-5, 15⟩

/-- A number as a fault tells of it. -/
def Number.described : Number → String
  | .whole value => "integer `" ++ toString value ++ "`"
  | .fraction value => "floating point `" ++ Decimal.ofFloat fractionForm value ++ "`"

/-- The fault of a value, which begins here, that is not of the wanted type. -/
def wrongTypeAt (wanted : String) (chars : List Char) : Fault :=
  let described (found : Except Fault String) : Fault :=
    match found with
    | .ok text => .wrongType text wanted
    | .error fault => fault
  match chars with
  -- A scalar is read to its end to be told of, so a malformed one is a fault of its own.
  | 'n' :: rest => described ((readWord "ull".toList rest).map fun _ => "null")
  | 't' :: rest => described ((readWord "rue".toList rest).map fun _ => "boolean `true`")
  | 'f' :: rest => described ((readWord "alse".toList rest).map fun _ => "boolean `false`")
  | '-' :: rest => described ((Number.read false rest).map fun (number, _) => number.described)
  | '"' :: rest =>
    described ((readText rest).map fun (text, _) => "string " ++ Quoted.encode text)
  -- A list or an object is told of by its first character; its inside is never reached.
  | '[' :: _ => .wrongType "sequence" wanted
  | '\x7b' :: _ => .wrongType "map" wanted
  | first :: _ =>
    if first.isDigit then
      described ((Number.read true chars).map fun (number, _) => number.described)
    else .valueExpected
  | [] => .valueExpected

end ImageHeader.Json
