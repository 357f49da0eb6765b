import ImageHeader.Text.Utf8

/-! Terminal sequences: what is left of a text where no terminal is there to be steered by it. -/

namespace ImageHeader.Terminal

/-- The sequence that a place in a text lies in. -/
inductive Sequence where
  | none
  /-- After an escape. -/
  | escape
  /-- After an escape and a sign that asks for more. -/
  | escapeMore
  /-- In the parameters of a control sequence. -/
  | control
  /-- In the parameters of a device's string. -/
  | device
  /-- In a string that a terminator or a new sequence ends. -/
  | string
  /-- In a command of the operating system, which a bell may end. -/
  | command
  deriving DecidableEq, Repr

/-- Whether a code point lies in a range. -/
def within (code first last : Nat) : Bool := first ≤ code && code ≤ last

/-- The sequence after a character of it. -/
def Sequence.next (sequence : Sequence) (char : Char) : Sequence :=
  let code := char.toNat
  -- These end any sequence, and the next test begins one in the middle of any other.
  if code = 0x18 || code = 0x1A then .none
  else if code = 0x1B then .escape
  else
    match sequence with
    | .none => .none
    | .escape =>
      if within code 0x20 0x2F then .escapeMore
      else if char = '[' then .control
      else if char = ']' then .command
      else if char = 'P' then .device
      else if char = 'X' || char = '^' || char = '_' then .string
      else if within code 0x30 0x7E then .none
      else .escape
    | .escapeMore => if within code 0x30 0x7E then .none else .escapeMore
    | .control => if within code 0x40 0x7E then .none else .control
    | .device => if char = ':' || within code 0x40 0x7E then .string else .device
    -- The terminator may be a byte within a character.
    | .string => if (Utf8.encode (String.singleton char)).contains 0x9C then .none else .string
    | .command => if code = 0x07 then .none else .command

/-- Whether a character is one of the blanks that steer nothing. -/
def isBlankControl (char : Char) : Bool :=
  char = '\t' || char = '\n' || char = '\x0c' || char = '\r'

/-- Whether a character within a sequence is shown. -/
def Sequence.shows (sequence : Sequence) (char : Char) : Bool :=
  match sequence with
  | .none => isBlankControl char || (0x20 ≤ char.toNat && char.toNat ≠ 0x7F)
  | .escape | .escapeMore | .control => isBlankControl char
  | .device | .string | .command => false

/-- The characters that are shown. Once a blank within a sequence has been shown, so is all up to the next character
that steers; there the sequence goes on. -/
def plainChars : Sequence → Bool → List Char → List Char
  | _, _, [] => []
  | sequence, resumed, char :: rest =>
    if (if resumed then Sequence.none else sequence).shows char then
      char :: plainChars (if char.toNat < 0x80 then sequence else .none) true rest
    else plainChars (sequence.next char) false rest

/-- What is shown of a text. -/
def plain (text : String) : String := String.ofList (plainChars .none false text.toList)

end ImageHeader.Terminal
