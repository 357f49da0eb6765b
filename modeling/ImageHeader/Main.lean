import ImageHeader.Program

/-! The program on a real file system: the files it may touch are read first, and changed ones written back. -/

namespace ImageHeader.Main

/-- The bytes of an array of bytes as a list. -/
def listOf (content : ByteArray) : List UInt8 := content.toList

/-- The text of a place, as file operations take it. -/
def pathText (location : Location) : String := (Path.ofLocation location).display

/-- What stands at a place of the real file system; links count as what they lead to. -/
def probe (location : Location) : IO (Option Entry) := do
  try
    let content ← IO.FS.readBinFile (pathText location)
    return some (.file (listOf content) false)
  -- What cannot be read is a directory or counts as missing.
  catch
    | .inappropriateType .. => return some .directory
    | _ => return none

/-- Adds what stands at a place and above it to a host. -/
def observe (host : Host) (location : Location) : IO Host := do
  let mut host := host
  for count in List.range location.length do
    let place := location.take (count + 1)
    if (host.tree.lookup place).isNone then
      match ← probe place with
      | some entry => host := { host with tree := host.tree.set place entry }
      | none => pure ()
  return host

/-- Adds what stands at a path and above it to a host. -/
def observePath (host : Host) (path : Path) : IO Host :=
  match host.lexicalLocation path with
  | .ok location => observe host location
  | .error _ => return host

/-- The host with the working directory and the environment of this process. -/
def startHost : IO Host := do
  let directory := Path.ofText (toString (← IO.currentDir))
  let mut environment : List (String × List UInt8) := []
  for name in ["PATH", "XXD_BIN", Program.filterVariable] do
    match ← IO.getEnv name with
    | some value => environment := (name, Utf8.encode value) :: environment
    | none => pure ()
  observe ⟨.empty, directory.lexicalLocation, environment, []⟩ directory.lexicalLocation

/-- The paths that a command names before its configuration is known. -/
def namedPaths (command : CommandLine) : List Path :=
  [command.binary, .ofText command.options.directory] ++ command.options.config.toList ++
    command.options.xxd.toList

/-- The paths that the configuration of a command names. -/
def configuredPaths (command : CommandLine) (host : Host) : List Path :=
  match command.options.resolveConfig host, host.absoluteDirectory command.options.directory with
  | .ok config, .ok directory => [directory.join config.output, directory.join config.intermediate]
  | _, _ => []

/-- Adds what a command may touch to a host. -/
def prepare (command : CommandLine) (host : Host) : IO Host := do
  -- The configuration can only be read once its own file has been observed.
  let host ← (namedPaths command).foldlM observePath host
  (configuredPaths command host).foldlM observePath host

/-- Makes one place of the real file system as it is after a run. -/
def commit (before after : FileTree) (location : Location) : IO Unit := do
  match before.lookup location, after.lookup location with
  | _, some (.file content _) =>
    -- Files that stayed the same are left alone.
    if before.lookup location ≠ after.lookup location then
      IO.FS.writeBinFile (pathText location) ⟨content.toArray⟩
  | some (.file ..), none => IO.FS.removeFile (pathText location)
  | _, _ => return

/-- Runs the program with its arguments; external converters are limited to scripts of built-in commands. -/
def run (arguments : List String) : IO UInt32 := do
  let arguments := arguments.map Utf8.encode
  let start ← startHost
  let host ←
    match CommandLine.parse arguments with
    | .ok command => prepare command start
    | .error _ => pure start
  let (outcome, finished) := Program.run arguments host
  -- Everything the run saw or made; most of it is as it was.
  let touched := (host.tree.entries ++ finished.tree.entries).map (·.1)
  for location in touched do
    commit host.tree finished.tree location
  IO.print outcome.output
  IO.eprint outcome.diagnostics
  return UInt32.ofNat outcome.status

end ImageHeader.Main

/-- The program. -/
def main (arguments : List String) : IO UInt32 := ImageHeader.Main.run arguments
