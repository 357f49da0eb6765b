import ImageHeader.Dump
import ImageHeader.Text.Hex

/-! The dump of byte literals: its array name, its rows and the dumper that makes it. -/

namespace ImageHeader.Literals

/-- The number of literals in a row, unless another is asked for. -/
def defaultColumns : Nat := 12

/-- Whether a byte is an ASCII digit. -/
def isDigit (byte : UInt8) : Bool := 0x30 ≤ byte && byte ≤ 0x39

/-- Whether a byte is an ASCII letter or digit. -/
def isAlphanumeric (byte : UInt8) : Bool :=
  isDigit byte || (0x41 ≤ byte && byte ≤ 0x5A) || (0x61 ≤ byte && byte ≤ 0x7A)

/-- The character of an array name for a byte of a path. -/
def nameChar (byte : UInt8) : Char :=
  if isAlphanumeric byte then Char.ofNat byte.toNat else '_'

/-- The array name for a path: letters and digits stay, all else is underscored, and no digit comes first. -/
def arrayName (path : Path) : List Char :=
  let name := path.bytes.map nameChar
  -- The path is judged and not the name, though a digit stays what it is.
  if path.bytes.head?.any isDigit then '_' :: '_' :: name else name

/-- What stands before the literal at an index. -/
def separator (columns index : Nat) : List Char :=
  if index % columns ≠ 0 then [',', ' ']
  -- The first row has no comma to end a row before it.
  else if index = 0 then [' ', ' ']
  else [',', '\n', ' ', ' ']

/-- The literal of a byte. -/
def literal (byte : UInt8) : List Char := '0' :: 'x' :: Hex.byte byte

/-- The literals of some bytes, of which the first has an index. -/
def literalsFrom (columns index : Nat) (bytes : List UInt8) : List Char :=
  (bytes.zipIdx index).flatMap fun (byte, index) => separator columns index ++ literal byte

/-- The dump of some bytes under the name for a path; a row holds at least one literal. -/
def render (columns : Nat) (label : Path) (bytes : List UInt8) : String :=
  let name := arrayName label
  let opening := "unsigned char ".toList ++ name ++ "[] = \x7b\n".toList
  -- A row of no literals would never end, so it has one.
  let body := literalsFrom (max columns 1) 0 bytes ++ (if bytes = [] then [] else ['\n'])
  let closing := "\x7d;\nunsigned int ".toList ++ name ++ "_len = ".toList
  String.ofList (opening ++ body ++ closing ++ (toString bytes.length).toList ++ ";\n".toList)

/-- The dumper that reads a file and renders its bytes. -/
def dumper (columns : Nat) : Dumper where
  name := "builtin"
  dump host input :=
    match host.read input with
    | .error cause => (.error (.unreadable input cause), host)
    | .ok bytes => (.ok (render columns input bytes), host)

end ImageHeader.Literals
