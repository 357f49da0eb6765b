import ImageHeader.FileTree.Arrangement
import ImageHeader.Log.Event

/-! The host of a run: its file tree, working directory, environment and log. -/

namespace ImageHeader

/-- All that a run can see and change. -/
structure Host where
  /-- The file tree. -/
  tree : FileTree
  /-- The working directory; one that was deleted holds an empty name. -/
  workingDirectory : Location
  /-- The environment variables, each name once. -/
  environment : List (String × List UInt8)
  /-- The events logged so far, oldest first. -/
  events : List Log.Event
  deriving Repr

namespace Host

/-- The value of an environment variable, if it is set. -/
def environmentValue? (host : Host) (name : String) : Option (List UInt8) :=
  host.environment.lookup name

/-- The path of the working directory, unless it was deleted. -/
def currentDirectory (host : Host) : Except IoError Path :=
  -- A directory that was deleted has no path any more.
  if host.tree.lookup host.workingDirectory = some .directory then
    .ok (Path.ofLocation host.workingDirectory)
  else .error .notFound

/-- Adds an event to the log. -/
def log (host : Host) (event : Log.Event) : Host :=
  { host with events := host.events ++ [event] }

/-- The place that a path stands for. -/
def find (host : Host) (path : Path) : Except IoError Location :=
  host.tree.find host.workingDirectory path

/-- The bytes of what a path stands for. -/
def read (host : Host) (path : Path) : Except IoError (List UInt8) :=
  host.tree.read host.workingDirectory path

/-- The text of what a path stands for. -/
def readText (host : Host) (path : Path) : Except IoError String :=
  match host.read path with
  | .error error => .error error
  | .ok bytes =>
    -- The whole file is read before it is judged as text.
    match Utf8.decode? bytes with
    | some text => .ok text
    | none => .error .malformedText

/-- Opens a path for writing. -/
def create (host : Host) (path : Path) : Except IoError (Host × Location) :=
  match host.tree.create host.workingDirectory path with
  | .error error => .error error
  | .ok (tree, location) => .ok ({ host with tree := tree }, location)

/-- Stores bytes in an entry that was opened for writing. -/
def write (host : Host) (location : Location) (content : List UInt8) : Except IoError Host :=
  match host.tree.write location content with
  | .error error => .error error
  | .ok tree => .ok { host with tree := tree }

/-- Removes the file or link that a path names. -/
def remove (host : Host) (path : Path) : Except IoError Host :=
  match host.tree.remove host.workingDirectory path with
  | .error error => .error error
  | .ok tree => .ok { host with tree := tree }

/-- The working directory after a place and all below it are gone: the names that are lost become empty. -/
def orphaned (lost : Location) (directory : Location) : Location :=
  if lost.isPrefixOf directory then
    lost.dropLast ++ (directory.drop (lost.length - 1)).map fun _ => []
  else directory

/-- Deletes what stands at a place, and all below it. -/
def discard (host : Host) (location : Location) : Host :=
  { host with
    tree := host.tree.eraseBelow location
    workingDirectory := orphaned location host.workingDirectory }

end Host

end ImageHeader
