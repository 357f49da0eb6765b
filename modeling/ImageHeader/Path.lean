import ImageHeader.Text.Utf8

/-! Paths: byte strings cut at slashes, read lexically and without any file tree. -/

namespace ImageHeader

/-- One name within a directory. -/
abbrev Name := List UInt8

/-- The names that lead from the root of a tree to a place in it. -/
abbrev Location := List Name

/-- A path as it is written. -/
structure Path where
  /-- The bytes of the path. -/
  bytes : List UInt8
  deriving DecidableEq, Repr, Inhabited

/-- A part of a path. -/
inductive Component where
  | root
  | current
  | parent
  | name (name : Name)
  deriving DecidableEq, Repr

namespace Path

/-- The byte that separates the parts of a path. -/
def slash : UInt8 := 0x2F

/-- The byte that stands before an extension. -/
def dot : UInt8 := 0x2E

/-- The path whose bytes are those of a text. -/
def ofText (text : String) : Path := ⟨Utf8.encode text⟩

/-- The path as a text, if its bytes are well-formed. -/
def text? (path : Path) : Option String := Utf8.decode? path.bytes

/-- The path as a text, with U+FFFD for malformed sequences. -/
def display (path : Path) : String := Utf8.decodeLossy path.bytes

/-- Whether the path has no bytes. -/
def isEmpty (path : Path) : Bool := path.bytes.isEmpty

/-- Whether the path starts at the root. -/
def isAbsolute (path : Path) : Bool := path.bytes.head? == some slash

/-- The pieces between slashes, empty ones included. -/
def pieces (path : Path) : List Name := path.bytes.splitOn slash

/-- The part that a piece after the first one stands for, if any. -/
def component? (piece : Name) : Option Component :=
  if piece = [] ∨ piece = [dot] then none
  else if piece = [dot, dot] then some .parent
  else some (.name piece)

/-- The parts of a path: only a leading `.` is kept, and repeated or trailing slashes mean nothing. -/
def components (path : Path) : List Component :=
  match path.pieces with
  | [] => []
  | first :: rest =>
    -- A dot is only kept where it is all that tells a path from a bare name.
    let opening :=
      if path.isAbsolute then [.root]
      else if first = [dot] then [.current]
      else (component? first).toList
    opening ++ rest.filterMap component?

/-- The parts without any `.`. -/
def essentialComponents (path : Path) : List Component :=
  path.components.filter (· ≠ .current)

/-- The last part, when it is a name. -/
def fileName? (path : Path) : Option Name :=
  match path.components.getLast? with
  | some (.name name) => some name
  | _ => none

/-- The bytes after the last dot of the last name, unless that dot opens the name. -/
def extension? (path : Path) : Option Name :=
  -- The reversed name falls apart at its first dot; nothing after that dot means a leading dot.
  path.fileName?.bind fun name =>
    match name.reverse.span (· ≠ dot) with
    | (_, []) | (_, [_]) => none
    | (after, _ :: _) => some after.reverse

/-- Places a path below a directory, unless it starts at the root. -/
def join (directory path : Path) : Path :=
  if path.isAbsolute then path
  else
    match directory.bytes.getLast? with
    -- An empty directory adds nothing, not even a slash.
    | none => path
    | some last =>
      if last = slash then ⟨directory.bytes ++ path.bytes⟩
      else ⟨directory.bytes ++ slash :: path.bytes⟩

/-- The path from the root to a place. -/
def ofLocation (location : Location) : Path :=
  match location with
  | [] => ⟨[slash]⟩
  | names => ⟨names.flatMap fun name => slash :: name⟩

/-- Applies one part to a place: `..` leaves a name, and stays where it is at the root. -/
def follow (location : Location) : Component → Location
  -- Whatever came before an absolute path is forgotten.
  | .root => []
  | .current => location
  | .parent => location.dropLast
  | .name name => location ++ [name]

/-- The place that the parts spell when each `..` takes back the name before it. -/
def lexicalLocation (path : Path) : Location :=
  path.components.foldl follow []

end Path

end ImageHeader
