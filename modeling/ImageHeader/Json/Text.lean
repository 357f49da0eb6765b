import ImageHeader.Json.Fault
import ImageHeader.Text.Hex

/-! JSON texts: reading a quoted text with its escapes, and writing one. -/

namespace ImageHeader.Json

/-- Reads four hexadecimal digits. -/
def readHex (chars : List Char) : Reading Nat :=
  -- Fewer than four bytes are an end of the text, whatever they are.
  if (chars.take 4).foldl (fun total char => total + char.utf8Size) 0 < 4 then .error .endInText
  else
    match chars with
    | a :: b :: c :: d :: rest =>
      match Hex.value? a, Hex.value? b, Hex.value? c, Hex.value? d with
      | some a, some b, some c, some d => .ok (((a * 16 + b) * 16 + c) * 16 + d, rest)
      | _, _, _, _ => .error .malformedEscape
    | _ => .error .malformedEscape

/-- Four hexadecimal digits are taken from the front. -/
theorem readHex_shorter {chars rest : List Char} {value : Nat}
    (read : readHex chars = .ok (value, rest)) : rest.length < chars.length := by
  -- Only the branch with four digits succeeds, and it drops them.
  unfold readHex at read
  split at read
  · cases read
  · split at read
    · split at read
      · simp only [Except.ok.injEq, Prod.mk.injEq] at read
        simp only [← read.2, List.length_cons]
        omega
      · cases read
    · cases read

/-- Whether a number is the first half of a surrogate pair. -/
def isLeading (unit : Nat) : Bool := 0xD800 ≤ unit && unit ≤ 0xDBFF

/-- Whether a number is the second half of a surrogate pair. -/
def isTrailing (unit : Nat) : Bool := 0xDC00 ≤ unit && unit ≤ 0xDFFF

/-- Reads the digits of a code point; one beyond four digits is a pair of escapes. -/
def readCodePoint (chars : List Char) : Reading Char :=
  match readHex chars with
  | .error fault => .error fault
  | .ok (unit, rest) =>
    -- The second half of a pair may not come first.
    if isTrailing unit then .error .loneSurrogate
    else if isLeading unit then
      match rest with
      -- The first half must be followed by another escape at once.
      | [] | ['\\'] => .error .endInText
      | '\\' :: 'u' :: after =>
        match readHex after with
        | .error fault => .error fault
        | .ok (second, after) =>
          if isTrailing second then
            -- Each half gives ten bits, above the planes that four digits reach.
            .ok (Char.ofNat (0x10000 + (unit - 0xD800) * 0x400 + (second - 0xDC00)), after)
          else .error .loneSurrogate
      | _ => .error .unfinishedSurrogate
    else .ok (Char.ofNat unit, rest)

/-- A code point takes characters from the front. -/
theorem readCodePoint_shorter {chars rest : List Char} {value : Char}
    (read : readCodePoint chars = .ok (value, rest)) : rest.length < chars.length := by
  -- Each successful branch reads four digits once or twice.
  unfold readCodePoint at read
  split at read
  · cases read
  · rename_i unit after first
    have once := readHex_shorter first
    split at read
    · cases read
    · split at read
      · split at read
        · cases read
        · cases read
        · split at read
          · cases read
          · rename_i second last again
            have twice := readHex_shorter again
            split at read
            · simp only [Except.ok.injEq, Prod.mk.injEq] at read
              simp only [List.length_cons] at once
              rw [← read.2]
              omega
            · cases read
        · cases read
      · simp only [Except.ok.injEq, Prod.mk.injEq] at read
        rw [← read.2]
        exact once

/-- The character that a letter after a backslash stands for, if any. -/
def shortEscape? (letter : Char) : Option Char :=
  match letter with
  | '"' => some '"'
  | '\\' => some '\\'
  | '/' => some '/'
  | 'b' => some '\x08'
  | 'f' => some '\x0c'
  | 'n' => some '\n'
  | 'r' => some '\r'
  | 't' => some '\t'
  | _ => none

/-- Reads a text up to its closing quote; the characters found so far come last first. -/
def readTextFrom (chars found : List Char) : Reading (List Char) :=
  match chars with
  | [] => .error .endInText
  | '"' :: rest => .ok (found.reverse, rest)
  -- A backslash at the end of the text escapes nothing.
  | ['\\'] => .error .endInText
  -- Before the short escapes, none of which is the letter `u`.
  | '\\' :: 'u' :: rest =>
    match read : readCodePoint rest with
    | .error fault => .error fault
    | .ok (char, after) =>
      have := readCodePoint_shorter read
      readTextFrom after (char :: found)
  | '\\' :: letter :: rest =>
    match shortEscape? letter with
    | some char => readTextFrom rest (char :: found)
    | none => .error .malformedEscape
  | char :: rest =>
    -- A control character is only had by an escape.
    if char.toNat < 0x20 then .error .controlInText else readTextFrom rest (char :: found)
termination_by chars.length

/-- Reads a text after its opening quote. -/
def readText (chars : List Char) : Reading String :=
  match readTextFrom chars [] with
  | .error fault => .error fault
  | .ok (found, rest) => .ok (String.ofList found, rest)

/-- Passes over a text after its opening quote; surrogates need not pair up. -/
def skipText (chars : List Char) : Except Fault (List Char) :=
  match chars with
  | [] => .error .endInText
  | '"' :: rest => .ok rest
  | ['\\'] => .error .endInText
  | '\\' :: 'u' :: rest =>
    -- The digits are checked, but not what they stand for.
    match read : readHex rest with
    | .error fault => .error fault
    | .ok (_, after) =>
      have := readHex_shorter read
      skipText after
  | '\\' :: letter :: rest =>
    match shortEscape? letter with
    | some _ => skipText rest
    | none => .error .malformedEscape
  | char :: rest =>
    if char.toNat < 0x20 then .error .controlInText else skipText rest
termination_by chars.length

/-- Passing over a text takes characters from the front. -/
theorem skipText_shorter {chars rest : List Char} (skipped : skipText chars = .ok rest) :
    rest.length < chars.length := by
  -- Every branch drops at least one character before it ends or goes on.
  fun_induction skipText chars with
  | case1 => cases skipped
  | case2 after => simp_all
  | case3 => cases skipped
  | case4 after fault read => cases skipped
  | case5 after value last read shorter ih =>
    have := ih skipped
    simp only [List.length_cons]
    omega
  | case6 =>
    rename_i ih
    have := ih skipped
    simp only [List.length_cons]
    omega
  | case7 => cases skipped
  | case8 => cases skipped
  | case9 =>
    rename_i ih
    have := ih skipped
    simp only [List.length_cons]
    omega

/-- The characters that stand for a character between quotes. -/
def writeChar (char : Char) : List Char :=
  match char with
  | '"' => ['\\', '"']
  | '\\' => ['\\', '\\']
  | '\x08' => ['\\', 'b']
  | '\x0c' => ['\\', 'f']
  | '\n' => ['\\', 'n']
  | '\r' => ['\\', 'r']
  | '\t' => ['\\', 't']
  | _ =>
    -- Control characters without a letter of their own fit two digits; everything else stands for itself.
    if char.toNat < 0x20 then "\\u00".toList ++ Hex.byte (UInt8.ofNat char.toNat) else [char]

/-- A text between quotes. -/
def writeText (text : String) : List Char :=
  '"' :: text.toList.flatMap writeChar ++ ['"']

end ImageHeader.Json
