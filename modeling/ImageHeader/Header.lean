import ImageHeader.Config
import ImageHeader.Header.Transcript

/-! Headers: the lines around the copied dump, in their order. -/

namespace ImageHeader.Header

/-- A line of the header. -/
def lineOf (text : String) : Line := Utf8.encode text ++ [lineEnd]

/-- The include guard's opening and the include line. -/
def prologue (config : Config) : List Line :=
  [lineOf ("#ifndef " ++ config.guard), lineOf ("#define " ++ config.guard),
    lineOf ("#include " ++ config.included)]

/-- The comment with the label, and the opening of the array. -/
def declaration (config : Config) (label : String) : List Line :=
  [lineOf ("// " ++ label),
    lineOf ("const " ++ config.elementType ++ " " ++ config.symbol ++ "[] = \x7b")]

/-- The line that closes the array. -/
def arrayEnd : Line := lineOf "\x7d;"

/-- The include guard's end. -/
def epilogue : List Line := [lineOf "#endif"]

/-- Whether a closing line is to be added after a transcript. -/
def needsArrayEnd (config : Config) (transcript : Transcript) : Bool :=
  !transcript.isClosed && config.closing = .ensure

/-- The lines after a transcript; a copied line without a line end is ended first. -/
def afterTranscript (config : Config) (transcript : Transcript) : List Line :=
  -- Without it the closing line would be glued to the last literals.
  let lineBreak :=
    if transcript.last.isSome && !transcript.endsWithLineEnd then [[lineEnd]] else []
  (if needsArrayEnd config transcript then lineBreak ++ [arrayEnd] else []) ++ epilogue

/-- Writes a header around the dump that a source gives. -/
def write (config : Config) (label : String) (source : Source) (sink : Sink) :
    Except IoError Transcript × Sink :=
  match sink.writeAll (prologue config ++ declaration config label) with
  | (.error error, sink) => (.error error, sink)
  | (.ok (), sink) =>
    -- The opening lines are out before the first line of the dump is read.
    match Transcript.ofSource source sink with
    | (.error error, sink) => (.error error, sink)
    | (.ok transcript, sink) =>
      match sink.writeAll (afterTranscript config transcript) with
      | (.error error, sink) => (.error error, sink)
      | (.ok (), sink) => (.ok transcript, sink)

end ImageHeader.Header
