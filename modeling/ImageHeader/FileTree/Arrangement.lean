import ImageHeader.FileTree.Access

/-! Arrangement: laying out the directories, files and links of a tree from outside a run. -/

namespace ImageHeader.FileTree

/-- Takes a step that makes the directory it enters where there is none; a link is followed. -/
def enterOrMake (state : FileTree × Location) : Step → FileTree × Location
  | .stay | .slash => state
  | .up => (state.1, state.2.dropLast)
  | .enter name =>
    let (tree, here) := state
    match tree.lookup (here ++ [name]) with
    | none => (tree.set (here ++ [name]) .directory, here ++ [name])
    | some _ =>
      match tree.find here ⟨name⟩ with
      -- A link to a directory is followed, so that what comes next is laid where it leads.
      | .ok location => (tree, location)
      | .error _ => (tree, here ++ [name])

/-- Makes the directories along a path, and gives the last one's place. -/
def layDirectories (tree : FileTree) (here : Location) (path : Path) : FileTree × Location :=
  path.steps.foldl enterOrMake (tree, path.origin here)

/-- The steps of a path that lead to the directory of its last name. -/
def leadingSteps (path : Path) : List Step :=
  (path.steps.filter (· ≠ .slash)).dropLast

/-- Makes the directories in which the last name of a path stands. -/
def layParents (tree : FileTree) (here : Location) (path : Path) : FileTree :=
  ((leadingSteps path).foldl enterOrMake (tree, path.origin here)).1

/-- Puts a file at a path, with the directories above it; a link there is followed. -/
def layFile (tree : FileTree) (here : Location) (path : Path) (content : List UInt8)
    (executable : Bool) : FileTree :=
  let tree := tree.layParents here path
  -- Opening decides which place is meant when a link stands there.
  match tree.create here path with
  | .error _ => tree
  | .ok (tree, location) => tree.set location (.file content executable)

/-- Puts a link at a path, with the directories above it. -/
def layLink (tree : FileTree) (here : Location) (path target : Path) : FileTree :=
  let tree := tree.layParents here path
  match tree.walk .removing here path with
  | .ok (.named parent name _) => tree.set (parent ++ [name]) (.link target)
  | _ => tree

/-- The place of the entry that a path names; a link is not followed. -/
def placeOf? (tree : FileTree) (here : Location) (path : Path) : Option Location :=
  match tree.walk .removing here path with
  | .ok (.named parent name _) => some (parent ++ [name])
  | .ok (.directory location) => some location
  | .error _ => none

end ImageHeader.FileTree
