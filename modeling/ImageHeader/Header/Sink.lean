import ImageHeader.IoError

/-! Sinks and sources: where a header is written to, and where a dump is read from. -/

namespace ImageHeader

/-- A writer that may run out of room. -/
structure Sink where
  /-- The bytes taken so far. -/
  accepted : Array UInt8
  /-- The number of bytes it still takes; `none` when there is no limit. -/
  room : Option Nat
  /-- What writing all of something reports when there is more than it takes. An interruption is not reported: the
  write is taken up again. -/
  refusal : IoError
  deriving Repr

/-- A reader of bytes that ends or fails after the last one. -/
structure Source where
  /-- The bytes to read. -/
  bytes : List UInt8
  /-- What reading a line reports after the last byte, if the source does not just end. Here, too, an interruption is
  not reported. -/
  failure : Option IoError
  deriving Repr

namespace Sink

/-- A sink that takes everything. -/
def unlimited : Sink := ⟨#[], none, .nothingWritten⟩

/-- Writes bytes: what there is room for is taken, and anything more is refused. -/
def write (sink : Sink) (bytes : List UInt8) : Except IoError Unit × Sink :=
  match sink.room with
  | none => (.ok (), { sink with accepted := sink.accepted ++ bytes })
  | some room =>
    let length := bytes.length
    if length ≤ room then
      (.ok (), { sink with accepted := sink.accepted ++ bytes, room := some (room - length) })
    else
      -- A part of the bytes may have been taken, and nothing more is.
      (.error sink.refusal,
        { sink with accepted := sink.accepted ++ bytes.take room, room := some 0 })

/-- Writes one piece after another up to the first that is refused. -/
def writeAll (sink : Sink) : List (List UInt8) → Except IoError Unit × Sink
  | [] => (.ok (), sink)
  | piece :: rest =>
    match sink.write piece with
    | (.error error, sink) => (.error error, sink)
    | (.ok (), sink) => sink.writeAll rest

end Sink

end ImageHeader
