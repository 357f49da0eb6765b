/-! Faults of JSON texts that are read for a known shape. -/

namespace ImageHeader.Json

/-- Why a JSON text was refused. -/
inductive Fault where
  | endInValue
  | endInObject
  | endInList
  | endInText
  | valueExpected
  | wordExpected
  | colonExpected
  | objectEndExpected
  | listEndExpected
  | trailingComma
  | trailingCharacters
  | keyNotText
  | malformedNumber
  | numberTooLarge
  | malformedEscape
  | loneSurrogate
  | unfinishedSurrogate
  | controlInText
  /-- A value of another type than the wanted one. -/
  | wrongType (found wanted : String)
  /-- A name that is none of the alternatives. -/
  | unknownVariant (name : String) (known : List String)
  /-- A field that is given twice. -/
  | repeatedField (name : String)
  deriving DecidableEq, Repr

/-- The fault in words. -/
def Fault.message : Fault → String
  | .endInValue => "EOF while parsing a value"
  | .endInObject => "EOF while parsing an object"
  | .endInList => "EOF while parsing a list"
  | .endInText => "EOF while parsing a string"
  | .valueExpected => "expected value"
  | .wordExpected => "expected ident"
  | .colonExpected => "expected `:`"
  | .objectEndExpected => "expected `,` or `\x7d`"
  | .listEndExpected => "expected `,` or `]`"
  | .trailingComma => "trailing comma"
  | .trailingCharacters => "trailing characters"
  | .keyNotText => "key must be a string"
  | .malformedNumber => "invalid number"
  | .numberTooLarge => "number out of range"
  | .malformedEscape => "invalid escape"
  | .loneSurrogate => "lone leading surrogate in hex escape"
  | .unfinishedSurrogate => "unexpected end of hex escape"
  | .controlInText => "control character (\\u0000-\\u001F) found while parsing a string"
  | .wrongType found wanted => "invalid type: " ++ found ++ ", expected " ++ wanted
  | .unknownVariant name known =>
    "unknown variant `" ++ name ++ "`, expected " ++
      " or ".intercalate (known.map fun variant => "`" ++ variant ++ "`")
  | .repeatedField name => "duplicate field `" ++ name ++ "`"

/-- What a reader makes of the characters before it: a value and the characters after it. -/
abbrev Reading (α : Type) := Except Fault (α × List Char)

end ImageHeader.Json
