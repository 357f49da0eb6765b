import ImageHeader.FileTree
import ImageHeader.IoError

/-! Walks: how a path is followed through a tree, name by name and link by link. -/

namespace ImageHeader

/-- One step of a walk. -/
inductive Step where
  | stay
  | up
  | enter (name : Name)
  /-- A slash at the end of a path: what stands before it must be a directory. -/
  | slash
  deriving DecidableEq, Repr

/-- What a walk is for, which decides how its last name is treated. -/
inductive Purpose where
  /-- To use what is there: a link at the end is followed. -/
  | opening
  /-- To make a file: a link at the end is followed, and the name may be free. -/
  | creating
  /-- To remove an entry: a link at the end is the entry. -/
  | removing
  deriving DecidableEq, Repr

/-- Where a walk ends. -/
inductive Spot where
  /-- In a directory that was not reached by its own name. -/
  | directory (location : Location)
  /-- At a name in a directory, and whether a slash follows it. -/
  | named (parent : Location) (name : Name) (slashed : Bool)
  deriving DecidableEq, Repr

/-- Where a run of steps stops. -/
inductive Halt where
  | spot (spot : Spot)
  /-- At a link in a directory, with the steps that follow it. -/
  | detour (parent : Location) (target : Path) (rest : List Step)
  deriving DecidableEq, Repr

namespace Path

/-- The length in bytes from which no path is accepted. -/
def lengthLimit : Nat := 4096

/-- The greatest length of a name in bytes. -/
def nameLimit : Nat := 255

/-- The step that a piece between slashes asks for, if any. -/
def step? (piece : Name) : Option Step :=
  if piece = [] then none
  else if piece = [dot] then some .stay
  else if piece = [dot, dot] then some .up
  else some (.enter piece)

/-- The steps of a path. -/
def steps (path : Path) : List Step :=
  let named := path.pieces.filterMap step?
  -- The root has no step of its own; a slash at the end has.
  if path.bytes.getLast? = some slash then named ++ [.slash] else named

/-- The place from which a path is followed, for one that is met in `here`. -/
def origin (path : Path) (here : Location) : Location :=
  if path.isAbsolute then [] else here

/-- Refuses the paths that the system does not even begin to follow. -/
def admitted (path : Path) : Except IoError Unit :=
  if path.bytes.contains 0 then .error .zeroInPath
  else if path.isEmpty then .error .notFound
  else if lengthLimit ≤ path.bytes.length then .error .nameTooLong
  else .ok ()

end Path

namespace FileTree

/-- The error of a name that is longer than names can be; where no directory is left, it is only missing. -/
def nameFault? (tree : FileTree) (here : Location) (name : Name) : Option IoError :=
  if name.length ≤ Path.nameLimit then none
  -- Within a deleted directory the name is looked for first, and is not there.
  else if tree.lookup here = some .directory then some .nameTooLong
  else some .notFound

/-- Treats the last name of a walk. -/
def arrive (tree : FileTree) (purpose : Purpose) (here : Location) (name : Name) (slashed : Bool) :
    Except IoError Halt :=
  -- No file can be made under a name that is said to be a directory.
  if purpose = .creating ∧ slashed then .error .isDirectory
  else
    match tree.nameFault? here name, tree.lookup (here ++ [name]) with
    | some error, _ => .error error
    | none, some (.link target) =>
      if purpose = .removing then .ok (.spot (.named here name slashed))
      else .ok (.detour here target (if slashed then [.slash] else []))
    | none, _ => .ok (.spot (.named here name slashed))

/-- Takes steps from a directory up to the end or to the first link that must be followed. -/
def descend (tree : FileTree) (purpose : Purpose) (here : Location) :
    List Step → Except IoError Halt
  | [] => .ok (.spot (.directory here))
  | .stay :: rest => tree.descend purpose here rest
  | .slash :: rest => tree.descend purpose here rest
  -- Above the root there is only the root, whose list of names stays empty.
  | .up :: rest => tree.descend purpose here.dropLast rest
  -- Only the last name is treated as the purpose asks; all others are passed through.
  | [.enter name] => tree.arrive purpose here name false
  | [.enter name, .slash] => tree.arrive purpose here name true
  | .enter name :: rest =>
    match tree.nameFault? here name, tree.lookup (here ++ [name]) with
    | some error, _ => .error error
    | none, none => .error .notFound
    | none, some .directory => tree.descend purpose (here ++ [name]) rest
    | none, some (.link target) => .ok (.detour here target rest)
    | none, some _ => .error .notDirectory

/-- The number of links that one walk may follow. -/
def linkLimit : Nat := 40

/-- Takes steps from a directory to their end, following at most `links` links. -/
def walkFrom (tree : FileTree) (purpose : Purpose) (links : Nat) (here : Location)
    (steps : List Step) : Except IoError Spot :=
  match tree.descend purpose here steps with
  | .error error => .error error
  | .ok (.spot spot) => .ok spot
  | .ok (.detour parent target rest) =>
    match links with
    | 0 => .error .tooManyLinks
    -- The target is followed from where the link stands, and the steps behind the link come after it.
    | links + 1 => tree.walkFrom purpose links (target.origin parent) (target.steps ++ rest)

section

variable {tree : FileTree} {purpose : Purpose} {links : Nat} {here : Location} {rest : List Step}

/-- A walk without steps ends where it is. -/
@[simp]
theorem walkFrom_nil : tree.walkFrom purpose links here [] = .ok (.directory here) := by
  rw [walkFrom, descend]

/-- A step on the spot changes nothing. -/
@[simp]
theorem walkFrom_stay :
    tree.walkFrom purpose links here (.stay :: rest) = tree.walkFrom purpose links here rest := by
  rw [walkFrom, walkFrom, descend]

/-- A slash after a directory changes nothing. -/
@[simp]
theorem walkFrom_slash :
    tree.walkFrom purpose links here (.slash :: rest) = tree.walkFrom purpose links here rest := by
  rw [walkFrom, walkFrom, descend]

/-- A step up goes on from the directory above. -/
@[simp]
theorem walkFrom_up : tree.walkFrom purpose links here (.up :: rest) =
    tree.walkFrom purpose links here.dropLast rest := by
  rw [walkFrom, walkFrom, descend]

end

/-- Follows a path from a working directory. -/
def walk (tree : FileTree) (purpose : Purpose) (here : Location) (path : Path) :
    Except IoError Spot :=
  match path.admitted with
  | .error error => .error error
  | .ok () => tree.walkFrom purpose linkLimit (path.origin here) path.steps

end FileTree

end ImageHeader
