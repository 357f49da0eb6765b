import ImageHeader.Process.Shell.Arithmetic
import ImageHeader.Process.Shell.Fraction

/-! Formats of the shell: escapes in texts, and directives that place arguments. -/

namespace ImageHeader.Shell

/-- The character that a letter after a backslash stands for, if any. -/
def escape? (char : Char) : Option Char :=
  match char with
  | 'a' => some '\x07'
  | 'b' => some '\x08'
  | 'e' => some '\x1b'
  | 'f' => some '\x0c'
  | 'n' => some '\n'
  | 'r' => some '\r'
  | 't' => some '\t'
  | 'v' => some '\x0b'
  | '\\' => some '\\'
  | _ => none

/-- Whether a character is an octal digit. -/
def isOctal (char : Char) : Bool := '0' ≤ char && char ≤ '7'

/-- The byte that octal digits spell, as a character. -/
def octal (digits : List Char) : Char :=
  Char.ofNat (digits.foldl (fun total digit => total * 8 + (digit.toNat - '0'.toNat)) 0 % 256)

/-- Reads what follows a backslash: its characters and the rest; `zero` lets a zero stand before octal digits. -/
def readEscape (zero : Bool) (chars : List Char) : List Char × List Char :=
  let spelled (chars : List Char) : List Char × List Char :=
    let digits := (chars.take 3).takeWhile isOctal
    ([octal digits], chars.drop digits.length)
  match chars with
  | [] => (['\\'], [])
  | char :: rest =>
    match escape? char with
    | some meant => ([meant], rest)
    | none =>
      -- A backslash before any other character stands for itself.
      if zero && char = '0' && rest.head?.any isOctal then spelled rest
      else if isOctal char then spelled chars
      else (['\\'], char :: rest)

/-- A text with its escapes resolved, and whether it ended with the escape that stops all output. -/
def unescape : Nat → List Char → List Char → List Char × Bool
  | 0, _, written => (written.reverse, false)
  | fuel + 1, chars, written =>
    match chars with
    | [] => (written.reverse, false)
    | '\\' :: 'c' :: _ => (written.reverse, true)
    | '\\' :: rest =>
      let (meant, after) := readEscape true rest
      unescape fuel after (meant.reverse ++ written)
    | char :: rest => unescape fuel rest (char :: written)

/-- How a directive places its argument. -/
structure Layout where
  /-- The flags. -/
  flags : List Char := []
  /-- The least number of characters. -/
  width : Nat := 0
  /-- The least number of digits, or the greatest number of characters of a text. -/
  precision : Option Nat := none
  deriving Repr

/-- A text in its place: blanks fill it up on the left, or on the right. -/
def Layout.pad (layout : Layout) (chars : List Char) : List Char :=
  let blanks := List.replicate (layout.width - chars.length) ' '
  if layout.flags.contains '-' then chars ++ blanks else blanks ++ chars

/-- The digits of a number with the zeros that a precision asks for; zero itself has no digit under precision zero. -/
def Layout.digits (layout : Layout) (digits : List Char) : List Char :=
  let digits := if digits = ['0'] && layout.precision = some 0 then [] else digits
  List.replicate (layout.precision.getD 0 - digits.length) '0' ++ digits

/-- The digits of a number in a place, with a sign and the mark of its base. -/
def Layout.number (layout : Layout) (sign digits : List Char) : List Char :=
  -- Zeros fill the place up only on the left, and not when a precision counts the digits.
  let zeros := layout.flags.contains '0' && !layout.flags.contains '-' && layout.precision.isNone
  let missing := if zeros then layout.width - (sign ++ digits).length else 0
  layout.pad (sign ++ List.replicate missing '0' ++ digits)

/-- The sign in front of a number. -/
def Layout.sign (layout : Layout) (negative : Bool) : List Char :=
  if negative then ['-']
  else if layout.flags.contains '+' then ['+']
  else if layout.flags.contains ' ' then [' ']
  else []

/-- A signed number in its place. -/
def Layout.signed (layout : Layout) (value : Int) : List Char :=
  layout.number (layout.sign (decide (value < 0))) (layout.digits (toString value.natAbs).toList)

/-- A fraction in its place, as a conversion asks for it; a capital letter makes all letters capitals. -/
def Layout.fraction (layout : Layout) (conversion : Char) (fraction : Fraction) : List Char :=
  let sign := layout.sign fraction.negative
  let text :=
    magnitudeText conversion.toLower (layout.flags.contains '#') layout.precision fraction.magnitude
  let raise (chars : List Char) : List Char := if conversion.isUpper then chars.map Char.toUpper else chars
  match fraction.magnitude with
  | .finite _ =>
    -- Zeros that fill the place up stand behind the mark of the base.
    let mark := if text.take 2 = ['0', 'x'] then ['0', 'x'] else []
    { layout with precision := none }.number (sign ++ raise mark) (raise (text.drop mark.length))
  | _ => layout.pad (sign ++ raise text)

/-- An unsigned number in its place; a negative one counts down from the greatest word. -/
def Layout.unsigned (layout : Layout) (base : Nat) (upper : Bool) (value : Int) : List Char :=
  let word := bitsOf value
  let digits := layout.digits (Nat.toDigits base word)
  let marked := layout.flags.contains '#'
  let digits := if marked && base = 8 && digits.head? ≠ some '0' then '0' :: digits else digits
  let mark := if marked && base = 16 && word ≠ 0 then ['0', 'x'] else []
  let raise (chars : List Char) : List Char := if upper then chars.map Char.toUpper else chars
  layout.number (raise mark) (raise digits)

/-- What is done with a format so far. -/
structure Formatting where
  /-- What was written, last character first. -/
  written : List Char := []
  /-- The arguments that are left. -/
  arguments : List (List Char)
  /-- Whether an argument was taken. -/
  taken : Bool := false
  /-- Whether no more is to be written. -/
  stopped : Bool := false
  /-- What to complain about. -/
  complaints : List (List Char) := []
  /-- What the format itself is blamed for, which ends all output. -/
  blame : Option (List Char) := none

/-- Writes characters. -/
def Formatting.add (formatting : Formatting) (chars : List Char) : Formatting :=
  { formatting with written := chars.reverse ++ formatting.written }

/-- Takes an argument as a text. -/
def Formatting.take (formatting : Formatting) : List Char × Formatting :=
  match formatting.arguments with
  | [] => ([], formatting)
  | argument :: rest => (argument, { formatting with arguments := rest, taken := true })

/-- Complains about an argument. -/
def Formatting.complain (formatting : Formatting) (argument : List Char) (reason : String) : Formatting :=
  { formatting with complaints := formatting.complaints ++ [argument ++ reason.toList] }

/-- Takes an argument as a number between bounds; after a quote it is the code of a character. -/
def Formatting.takeNumber (formatting : Formatting) (signed : Bool) : Int × Formatting :=
  let (argument, formatting) := formatting.take
  let isSpace (char : Char) : Bool := char = ' ' || ('\t' ≤ char && char ≤ '\r')
  match argument with
  | [] => (0, formatting)
  | '\'' :: rest | '"' :: rest => (((rest.head?.map Char.toNat).getD 0 : Nat), formatting)
  | argument =>
    let (negative, digits) :=
      match argument.dropWhile isSpace with
      | '-' :: digits => (true, digits)
      | '+' :: digits => (false, digits)
      | digits => (false, digits)
    if !(digits.head?.any Char.isDigit) then (0, formatting.complain argument ": expected numeric value")
    else
      let (magnitude, rest) := readNumeral digits
      let value : Int := if negative then -(magnitude : Int) else magnitude
      let greatest : Int := 0xFFFFFFFFFFFFFFFF
      let inRange := if signed then decide (clamp value = value) else decide ((magnitude : Int) ≤ greatest)
      let nearest := if signed then clamp value else if inRange then value else greatest
      if rest ≠ [] then (nearest, formatting.complain argument ": not completely converted")
      else if inRange then (nearest, formatting)
      else (nearest, formatting.complain argument ": Numerical result out of range")

/-- Takes an argument as a fraction; after a quote it is the code of a character. -/
def Formatting.takeFraction (formatting : Formatting) : Fraction × Formatting :=
  let (argument, formatting) := formatting.take
  let ofCode (code : Nat) : Fraction := { magnitude := (ofQuotient code 1).1 }
  match argument with
  | [] => (ofCode 0, formatting)
  | '\'' :: rest | '"' :: rest => (ofCode ((rest.head?.map Char.toNat).getD 0), formatting)
  | argument =>
    match readFraction? argument with
    | none => (ofCode 0, formatting.complain argument ": expected numeric value")
    | some (fraction, []) =>
      if fraction.strays then (fraction, formatting.complain argument ": Numerical result out of range")
      else (fraction, formatting)
    | some (fraction, _) => (fraction, formatting.complain argument ": not completely converted")

/-- Ends with a complaint about the format itself. -/
def Formatting.fail (formatting : Formatting) (text : List Char) : Formatting :=
  { formatting with stopped := true, blame := some text }

/-- Writes an argument as a directive asks. -/
def Formatting.place (formatting : Formatting) (layout : Layout) (directive : List Char)
    (conversion : Char) : Formatting :=
  let numbered (signed : Bool) (shown : Int → List Char) : Formatting :=
    let (value, formatting) := formatting.takeNumber signed
    formatting.add (shown value)
  let cut (chars : List Char) : List Char := layout.pad (chars.take (layout.precision.getD chars.length))
  match conversion with
  | 's' =>
    let (argument, formatting) := formatting.take
    formatting.add (cut argument)
  | 'b' =>
    let (argument, formatting) := formatting.take
    let (meant, stopped) := unescape (argument.length + 1) argument []
    { formatting.add (cut meant) with stopped := stopped }
  -- An empty argument gives the zero byte that ends it.
  | 'c' =>
    let (argument, formatting) := formatting.take
    formatting.add (layout.pad [argument.headD '\x00'])
  | 'd' | 'i' => numbered true layout.signed
  | 'u' => numbered false (layout.unsigned 10 false)
  | 'o' => numbered false (layout.unsigned 8 false)
  | 'x' => numbered false (layout.unsigned 16 false)
  | 'X' => numbered false (layout.unsigned 16 true)
  | _ =>
    if "aefgAEFG".toList.contains conversion then
      let (fraction, formatting) := formatting.takeFraction
      formatting.add (layout.fraction conversion fraction)
    else formatting.fail (directive ++ conversion :: ": invalid directive".toList)

/-- Reads the width or the precision of a directive, which a star takes from the arguments. -/
def Formatting.readSize (formatting : Formatting) (chars : List Char) : Int × List Char × Formatting :=
  match chars with
  | '*' :: rest =>
    let (value, formatting) := formatting.takeNumber true
    (value.bmod 0x100000000, rest, formatting)
  | _ => (Script.decimal (chars.takeWhile Char.isDigit), chars.dropWhile Char.isDigit, formatting)

/-- Reads the layout of a directive after its percent sign. -/
def Formatting.readLayout (formatting : Formatting) (chars : List Char) : Layout × List Char × Formatting :=
  let isFlag (char : Char) : Bool := "#-+ 0".toList.contains char
  let flags := chars.takeWhile isFlag
  let (width, rest, formatting) := formatting.readSize (chars.dropWhile isFlag)
  let flags := if width < 0 then '-' :: flags else flags
  match rest with
  | '.' :: rest =>
    let (precision, rest, formatting) := formatting.readSize rest
    (⟨flags, width.natAbs, if precision < 0 then none else some precision.toNat⟩, rest, formatting)
  | _ => (⟨flags, width.natAbs, none⟩, rest, formatting)

/-- The size from which a directive fails. -/
def sizeLimit : Nat := 0x7FFFFFFF

/-- One pass over a format. -/
def format : Nat → List Char → Formatting → Formatting
  | 0, _, formatting => formatting
  | fuel + 1, chars, formatting =>
    if formatting.stopped then formatting
    else
      match chars with
      | [] => formatting
      | '\\' :: rest =>
        let (meant, after) := readEscape false rest
        format fuel after (formatting.add meant)
      | '%' :: '%' :: rest => format fuel rest (formatting.add ['%'])
      | '%' :: rest =>
        let (layout, after, formatting) := formatting.readLayout rest
        match after with
        | [] => formatting.fail "missing format character".toList
        | conversion :: after =>
          -- A complaint shows the directive as it was written.
          let directive := '%' :: rest.take (rest.length - after.length - 1)
          let tooLarge := sizeLimit ≤ layout.width ∨ sizeLimit ≤ layout.precision.getD 0
          if tooLarge then formatting.fail "xvsnprintf failed".toList
          else format fuel after (formatting.place layout directive conversion)
      | char :: rest => format fuel rest (formatting.add [char])

/-- Uses a format again and again while it takes arguments and some are left. -/
def formatAll (chars : List Char) : Nat → Formatting → Formatting
  | 0, formatting => formatting
  | fuel + 1, formatting =>
    let formatting := format (chars.length + 1) chars { formatting with taken := false }
    -- A format that takes no argument would never come to an end.
    if formatting.stopped || !formatting.taken || formatting.arguments.isEmpty then formatting
    else formatAll chars fuel formatting

end ImageHeader.Shell
