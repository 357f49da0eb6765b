import ImageHeader.Text.Unprintable

/-! Quoted texts: what a message shows of a text, with every character that would not be seen spelled out. -/

namespace ImageHeader.Quoted

/-- The characters that stand for a character between quotes. -/
def encodeChar (char : Char) : List Char :=
  match char with
  | '"' => ['\\', '"']
  | '\\' => ['\\', '\\']
  | '\n' => ['\\', 'n']
  | '\r' => ['\\', 'r']
  | '\t' => ['\\', 't']
  | '\x00' => ['\\', '0']
  | _ =>
    if Unprintable.contains char then "\\u\x7b".toList ++ Nat.toDigits 16 char.toNat ++ ['\x7d']
    else [char]

/-- A text between quotes. -/
def encode (text : String) : String :=
  String.ofList ('"' :: text.toList.flatMap encodeChar ++ ['"'])

end ImageHeader.Quoted
