import ImageHeader.Header.Sink
import ImageHeader.Text.Blank
import ImageHeader.Text.Utf8

/-! Transcripts: copying the lines of a dump but the first and the last. -/

namespace ImageHeader

/-- A line with its line end, if it has one. -/
abbrev Line := List UInt8

/-- The byte that ends a line. -/
def lineEnd : UInt8 := 0x0A

namespace Source

/-- Bytes that are being cut into lines: the open line backwards, and the ended lines, last first. -/
abbrev Cutting := List UInt8 × List Line

/-- Adds a byte to the open line, and ends it after a line end. -/
def cut (state : Cutting) (byte : UInt8) : Cutting :=
  let line := byte :: state.1
  if byte = lineEnd then ([], line.reverse :: state.2) else (line, state.2)

/-- The lines that are read before the source ends or fails; only an end lets an open line count. -/
def lines (source : Source) : List Line :=
  -- A failure within a line loses that line: it was never handed out.
  let (rest, ended) := source.bytes.foldl cut ([], [])
  if rest = [] ∨ source.failure.isSome then ended.reverse else (rest.reverse :: ended).reverse

end Source

/-- Whether a line closes an array, with blanks around it or not. -/
def closesArray (line : String) : Bool := Blank.trim line = "\x7d;"

/-- What was copied from a dump. -/
structure Transcript where
  /-- The number of lines copied. -/
  lines : Nat
  /-- The last of them, as it was read. -/
  last : Option Line
  deriving DecidableEq, Repr

namespace Transcript

/-- The transcript of nothing. -/
def empty : Transcript := ⟨0, none⟩

/-- The transcript after one more line. -/
def add (transcript : Transcript) (line : Line) : Transcript := ⟨transcript.lines + 1, some line⟩

/-- Whether a character belongs to a line end. -/
def endsLine (char : Char) : Bool := char = '\n' || char = '\r'

/-- The text of a line without its line end. -/
def lineText (line : Line) : String :=
  String.ofList (Blank.dropTrailing endsLine (Utf8.decodeLossy line).toList)

/-- The text of the last line without its line end, if a line was copied. -/
def lastLine? (transcript : Transcript) : Option String := transcript.last.map lineText

/-- Whether the last line that was copied had a line end. -/
def endsWithLineEnd (transcript : Transcript) : Bool :=
  transcript.last.any fun line => line.getLast? == some lineEnd

/-- Whether the last line that was copied closes the array. -/
def isClosed (transcript : Transcript) : Bool := transcript.lastLine?.any closesArray

/-- Copies lines, each only when the next one is there. -/
def copy (sink : Sink) (transcript : Transcript) (held : Option Line) :
    List Line → Except IoError Transcript × Sink
  | [] => (.ok transcript, sink)
  | line :: rest =>
    match held with
    -- A line is held back until another one shows that it was not the last.
    | none => copy sink transcript (some line) rest
    | some previous =>
      match sink.write previous with
      | (.error error, sink) => (.error error, sink)
      | (.ok (), sink) => copy sink (transcript.add previous) (some line) rest

/-- Copies all lines of a source but the first and the last into a sink. -/
def ofSource (source : Source) (sink : Sink) : Except IoError Transcript × Sink :=
  -- What a sink refuses is met before what the source has left to report.
  match copy sink empty none (source.lines.drop 1) with
  | (.error error, sink) => (.error error, sink)
  | (.ok transcript, sink) =>
    match source.failure with
    | some error => (.error error, sink)
    | none => (.ok transcript, sink)

end Transcript

end ImageHeader
