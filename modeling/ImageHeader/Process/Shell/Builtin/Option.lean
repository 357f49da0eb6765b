import ImageHeader.Process.Shell.Builtin.Output
import ImageHeader.Process.Shell.Variable

/-! The builtin command that reads the options of a script. -/

namespace ImageHeader.Shell

/-- What comes next among the options of some words. -/
inductive NextOption where
  /-- There is no option left. -/
  | finished
  | found (letter : Char) (argument : Option (List Char))
  | unknown (letter : Char)
  | lacking (letter : Char)

/-- Whether a letter is allowed among options, and whether it goes with an argument: a colon behind it says so. -/
def allowance? (letter : Char) : List Char → Option Bool
  | [] => none
  | known :: ':' :: rest =>
    if known = letter then some true else allowance? letter rest
  | known :: rest => if known = letter then some false else allowance? letter rest

/-- Looks for the next option among words, from a place that is a number of a word and of a character in the word
before it. -/
def nextOption (allowed : List Char) (words : List (List Char)) (place : Nat × Nat) :
    NextOption × (Nat × Nat) :=
  let inside :=
    match words[place.1 - 2]? with
    | some word => if place.1 ≤ 1 || place.2 = 0 then [] else word.drop place.2
    | none => []
  let (letters, index, offset, finished) :=
    -- Letters left over from the last word come before the next word is looked at.
    if inside ≠ [] then (inside, place.1, place.2, false)
    else
      match words[place.1 - 1]? with
      | some ['-', '-'] => ([], place.1 + 1, 0, true)
      | some ('-' :: letter :: letters) => (letter :: letters, place.1 + 1, 1, false)
      | _ => ([], place.1, 0, true)
  match finished, letters with
  | false, letter :: rest =>
    let after := (index, offset + 1)
    match allowance? letter allowed with
    | none => (.unknown letter, after)
    | some false => (.found letter none, after)
    | some true =>
      if rest ≠ [] then (.found letter (some rest), (index, 0))
      else
        match words[index - 1]? with
        | some word => (.found letter (some word), (index + 1, 0))
        | none => (.lacking letter, (index, 0))
  | _, _ => (.finished, (index, 0))

/-- Takes the next option from the arguments, or from its own words. -/
def getOptions : Builtin := fun _ words => do
  match words with
  | allowed :: name :: given =>
    let shell ← get
    let words := if given.isEmpty then shell.arguments else given
    -- A place beyond the words was left by a longer list, so reading begins anew.
    let place := if shell.optionPlace.1 > words.length + 1 then (1, 0) else shell.optionPlace
    let silent := allowed.head? = some ':'
    let (next, place) := nextOption allowed words place
    let optionArgument := chars "OPTARG"
    let blame (text : String) (letter : Char) (sign : Char) : Act Char := do
      if silent then
        setVariable optionArgument [letter]
        return sign
      let _ ← write 2 (chars text ++ letter :: (if text = "Illegal option -" then [] else chars " option") ++ ['\n'])
      assign optionArgument none id
      return '?'
    let letter ←
      match next with
      | .finished => pure '?'
      | .found letter argument => do
        setVariable optionArgument (argument.getD [])
        pure letter
      | .unknown letter => blame "Illegal option -" letter '?'
      | .lacking letter => blame "No arg for -" letter ':'
    setVariable (chars "OPTIND") (chars (toString place.1))
    modify fun shell => { shell with optionPlace := place }
    setVariable name [letter]
    return match next with
      | .finished => 1
      | _ => 0
  | _ => fail (chars "Usage: getopts optstring var [arg]")

end ImageHeader.Shell
