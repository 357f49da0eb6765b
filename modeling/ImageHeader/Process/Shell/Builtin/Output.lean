import ImageHeader.Process.Shell.Format

/-! Builtin commands that print their words. -/

namespace ImageHeader.Shell

/-- A builtin command: what it does with its name and its other words, and the exit code. -/
abbrev Builtin := List Char → List (List Char) → Act Nat

/-- Prints its words with blanks between them, escapes resolved. -/
def echo : Builtin := fun _ words => do
  let (words, final) :=
    match words with
    | ['-', 'n'] :: rest => (rest, [])
    | words => (words, ['\n'])
  let text := [' '].intercalate words
  let (meant, stopped) := unescape (text.length + 1) text []
  -- The escape that stops all output takes the line end with it.
  print (if stopped then meant else meant ++ final)
  return 0

/-- Prints its words as a format places them. -/
def printf : Builtin := fun _ words => do
  let (_, words) ← options [] words
  match words with
  | [] => fail (chars "usage: printf format [arg ...]")
  | text :: words =>
    let formatting := formatAll text (words.length + 1) { arguments := words }
    for text in formatting.complaints do
      complain text
    print formatting.written.reverse
    match formatting.blame with
    | some text => fail text
    | none => return if formatting.complaints.isEmpty then 0 else 1

end ImageHeader.Shell
