import ImageHeader.FileTree.Walk

/-! Access to a tree by path: finding, reading, creating, writing and removing. -/

namespace ImageHeader

/-- What reading an opened entry gives. -/
def Entry.content : Entry → Except IoError (List UInt8)
  | .directory => .error .isDirectory
  | .file content _ => .ok content
  -- A device gives nothing, and a link is never opened itself.
  | .link _ | .special _ => .ok []

namespace FileTree

/-- The place of an entry at which a walk ends; there must be one, and a directory where a slash follows. -/
def settle (tree : FileTree) : Spot → Except IoError Location
  | .directory location => .ok location
  | .named parent name slashed =>
    match tree.lookup (parent ++ [name]) with
    | none => .error .notFound
    | some .directory => .ok (parent ++ [name])
    -- A slash behind it says that it is a directory.
    | some _ => if slashed then .error .notDirectory else .ok (parent ++ [name])

/-- The place that a path stands for, with every link followed. -/
def find (tree : FileTree) (here : Location) (path : Path) : Except IoError Location :=
  match tree.walk .opening here path with
  | .error error => .error error
  | .ok spot => tree.settle spot

/-- The place that an absolute path stands for, found name by name: the path may be of any length, and only that of
its place is limited. -/
def resolve (tree : FileTree) (path : Path) : Except IoError Location :=
  if path.bytes.contains 0 then .error .zeroInPath
  else
    match tree.walkFrom .opening linkLimit [] path.steps with
    | .error error => .error error
    | .ok spot =>
      match tree.settle spot with
      | .error error => .error error
      | .ok location =>
        if Path.lengthLimit ≤ (Path.ofLocation location).bytes.length then .error .nameTooLong
        else .ok location

/-- What stands at a place that has been found; one without an entry was the deleted working directory. -/
def entryAt (tree : FileTree) (location : Location) : Entry :=
  (tree.lookup location).getD .directory

/-- The bytes of what a path stands for. -/
def read (tree : FileTree) (here : Location) (path : Path) : Except IoError (List UInt8) :=
  match tree.find here path with
  | .error error => .error error
  | .ok location => (tree.entryAt location).content

/-- Opens a path for writing: a file that is there loses its content, and a free name gets an empty file. -/
def create (tree : FileTree) (here : Location) (path : Path) :
    Except IoError (FileTree × Location) :=
  match tree.walk .creating here path with
  | .error error => .error error
  | .ok (.directory _) => .error .isDirectory
  | .ok (.named parent name _) =>
    let location := parent ++ [name]
    match tree.lookup location with
    | none =>
      -- A working directory that was deleted takes no new entries.
      if tree.lookup parent = some .directory then .ok (tree.set location (.file [] false), location)
      else .error .notFound
    | some .directory => .error .isDirectory
    | some (.file _ executable) => .ok (tree.set location (.file [] executable), location)
    -- A device stays what it is; a walk that makes a file does not stop at a link.
    | some (.link _) | some (.special _) => .ok (tree, location)

/-- Stores bytes in an entry that was opened for writing. -/
def write (tree : FileTree) (location : Location) (content : List UInt8) :
    Except IoError FileTree :=
  match tree.lookup location with
  | some (.file _ executable) => .ok (tree.set location (.file content executable))
  -- Nothing at all fits even where there is no room.
  | some (.special .full) => if content = [] then .ok tree else .error .noSpace
  | _ => .ok tree

/-- Removes the file or link that a path names; a link is not followed. -/
def remove (tree : FileTree) (here : Location) (path : Path) : Except IoError FileTree :=
  match tree.walk .removing here path with
  | .error error => .error error
  | .ok (.directory _) => .error .isDirectory
  | .ok (.named parent name slashed) =>
    match tree.lookup (parent ++ [name]) with
    | none => .error .notFound
    | some .directory => .error .isDirectory
    -- The name goes, and with it a link but not what it leads to.
    | some _ => if slashed then .error .notDirectory else .ok (tree.erase (parent ++ [name]))

end FileTree

end ImageHeader
