import ImageHeader.Dump
import ImageHeader.Header

/-! The generator: from the dump of an image to the header at its output path. -/

namespace ImageHeader

/-- Why no header was generated. -/
inductive GenerateError where
  | tool (error : DumpError)
  /-- Output and intermediate are one place. -/
  | collision (path : Path)
  | io (path : Path) (cause : IoError)
  deriving DecidableEq, Repr

namespace GenerateError

/-- An input that cannot be read is no fault of the dumper. -/
def ofDump : DumpError → GenerateError
  | .unreadable input cause => .io input cause
  | error => .tool error

/-- The error in words. -/
def message : GenerateError → String
  | .tool error => "Hex dump failed: " ++ error.message
  | .collision path => "Output and intermediate both resolve to " ++ path.display
  | .io path cause => "I/O error on " ++ path.display ++ ": " ++ cause.message

/-- The error and its causes in words, outermost first. -/
def chain (error : GenerateError) : List String :=
  match error with
  | .io _ cause => [error.message, cause.message]
  | _ => [error.message]

end GenerateError

/-- What a run that succeeded reports. -/
structure Report where
  /-- The image. -/
  input : Path
  /-- The header. -/
  output : Path
  /-- The text of the comment line. -/
  label : String
  /-- The name of the dumper. -/
  converter : String
  /-- The number of lines copied from the dump. -/
  bodyLines : Nat
  /-- Whether they close the array. -/
  closed : Bool
  /-- Whether a closing line was added. -/
  appendedClose : Bool
  deriving DecidableEq, Repr

/-- The label of an image: its last name, or its whole path when it has none. -/
def inputLabel (input : Path) : String :=
  match input.fileName? with
  | some name => Utf8.decodeLossy name
  | none => input.display

/-- The place that a path spells lexically, from the working directory if it is relative. -/
def Host.lexicalLocation (host : Host) (path : Path) : Except IoError Location :=
  -- The tree is not asked: only the names of the path count, and links are not followed.
  if path.isAbsolute then .ok path.lexicalLocation
  else
    match host.currentDirectory with
    | .error cause => .error cause
    | .ok directory => .ok (directory.join path).lexicalLocation

/-- Removes what a path names, if there is anything. -/
def Host.removeIfThere (host : Host) (path : Path) : Except IoError Host :=
  match host.remove path with
  | .error cause => if cause = .notFound then .ok host else .error cause
  | .ok host => .ok host

/-- Removes what a path names, if that can be done. -/
def Host.tryRemove (host : Host) (path : Path) : Host :=
  match host.remove path with
  | .error _ => host
  | .ok host => host

/-- A configuration with the dumper that serves it. -/
structure Generator where
  /-- The configuration. -/
  config : Config
  /-- The dumper. -/
  dumper : Dumper
  /-- The directory of relative output and intermediate paths, when it is not the working directory. -/
  baseDirectory : Option Path := none

namespace Generator

/-- The generator with its relative paths below a directory, in place of one that was set before. -/
def inDirectory (generator : Generator) (directory : Path) : Generator :=
  { generator with baseDirectory := some directory }

/-- A path of the configuration, below the base directory if it is relative. -/
def resolve (generator : Generator) (path : Path) : Path :=
  match generator.baseDirectory with
  | some directory => if path.isAbsolute then path else directory.join path
  | none => path

/-- The path of the header. -/
def outputPath (generator : Generator) : Path := generator.resolve generator.config.output

/-- The path of the file that holds the dump. -/
def intermediatePath (generator : Generator) : Path :=
  generator.resolve generator.config.intermediate

/-- Writes the header to the output path, from the dump at the intermediate path. -/
def writeHeader (generator : Generator) (label : String) (host : Host) :
    Except GenerateError Transcript × Host :=
  let output := generator.outputPath
  let intermediate := generator.intermediatePath
  match host.find intermediate with
  | .error cause => (.error (.io intermediate cause), host)
  | .ok location =>
    -- A directory opens like a file and fails at the first line that is read from it.
    let source : Source :=
      match (host.tree.entryAt location).content with
      | .ok bytes => ⟨bytes, none⟩
      | .error cause => ⟨[], some cause⟩
    -- From here on something stands at the output path, however the copying ends.
    match host.create output with
    | .error cause => (.error (.io output cause), host)
    | .ok (host, place) =>
      let (result, sink) := Header.write generator.config label source .unlimited
      -- What was written before a failure reaches the file all the same.
      match host.write place sink.accepted.toList with
      | .error cause => (.error (.io output cause), host)
      | .ok host => (result.mapError (.io output), host)

/-- Stores the dump at the place that was opened for it, and replaces the header. -/
def storeAndWrite (generator : Generator) (label dump : String) (place : Location) (host : Host) :
    Except GenerateError Transcript × Host :=
  match host.write place (Utf8.encode dump) with
  | .error cause => (.error (.io generator.intermediatePath cause), host)
  | .ok host =>
    -- An old header goes only once the dump is safe.
    match host.removeIfThere generator.outputPath with
    | .error cause => (.error (.io generator.outputPath cause), host)
    | .ok host => generator.writeHeader label host

/-- Ends a run: the intermediate file goes, and what was done is told. -/
def finish (generator : Generator) (input : Path) (label : String) (transcript : Transcript)
    (host : Host) : Except GenerateError Report × Host :=
  let output := generator.outputPath
  let appended := Header.needsArrayEnd generator.config transcript
  -- An array that stays open is a warning and no failure.
  let host := if !transcript.isClosed && !appended then host.log (.unclosed output) else host
  match host.remove generator.intermediatePath with
  | .error cause => (.error (.io generator.intermediatePath cause), host)
  | .ok host =>
    let report : Report :=
      { input := input
        output := output
        label := label
        converter := generator.dumper.name
        bodyLines := transcript.lines
        closed := transcript.isClosed
        appendedClose := appended }
    (.ok report, host.log (.written output transcript.lines))

/-- Goes from a dump to the header; once the intermediate file is there, it goes in any case. -/
def generateFrom (generator : Generator) (input : Path) (dump : String) (host : Host) :
    Except GenerateError Report × Host :=
  let intermediate := generator.intermediatePath
  let label := inputLabel input
  let host := host.log (.captured generator.dumper.name dump.utf8ByteSize intermediate)
  match host.create intermediate with
  -- Nothing was made, so nothing has to go.
  | .error cause => (.error (.io intermediate cause), host)
  | .ok (host, place) =>
    match generator.storeAndWrite label dump place host with
    | (.error error, host) => (.error error, host.tryRemove intermediate)
    | (.ok transcript, host) => generator.finish input label transcript host

/-- Generates the header of an image; output and intermediate must be two places. -/
def generate (generator : Generator) (input : Path) (host : Host) :
    Except GenerateError Report × Host :=
  match host.lexicalLocation generator.outputPath with
  | .error cause => (.error (.io generator.outputPath cause), host)
  | .ok output =>
    match host.lexicalLocation generator.intermediatePath with
    | .error cause => (.error (.io generator.intermediatePath cause), host)
    | .ok intermediate =>
      -- The comparison comes before the dumper, so a collision touches nothing.
      if output = intermediate then (.error (.collision (Path.ofLocation output)), host)
      else
        match generator.dumper.dump host input with
        | (.error error, host) => (.error (.ofDump error), host)
        | (.ok dump, host) => generator.generateFrom input dump host

end Generator

end ImageHeader
