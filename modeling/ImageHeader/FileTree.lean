import ImageHeader.Path

/-! File trees: what stands at each place below the root. -/

namespace ImageHeader

/-- The kinds of entry that are neither directories, files nor links. -/
inductive Special where
  /-- A device that is always empty and swallows what is written. -/
  | null
  /-- A device that has room for nothing. -/
  | full
  /-- The interpreter of command scripts. -/
  | shell
  deriving DecidableEq, Repr

/-- What stands at a place in a tree. -/
inductive Entry where
  | directory
  | file (content : List UInt8) (executable : Bool)
  | link (target : Path)
  | special (kind : Special)
  deriving DecidableEq, Repr

/-- A tree of named entries; its root is always a directory. -/
structure FileTree where
  /-- The places below the root that hold something, each once. -/
  entries : List (Location × Entry)
  deriving Repr

namespace FileTree

/-- The tree with nothing below its root. -/
def empty : FileTree := ⟨[]⟩

/-- What stands at a place, if anything. -/
def lookup (tree : FileTree) (location : Location) : Option Entry :=
  if location = [] then some .directory
  else (tree.entries.find? fun pair => pair.1 = location).map (·.2)

/-- The tree without the entry at a place. -/
def erase (tree : FileTree) (location : Location) : FileTree :=
  -- What stood below a directory stays in the list, out of reach of any walk.
  ⟨tree.entries.filter fun pair => pair.1 ≠ location⟩

/-- The tree with an entry at a place, whatever stood there. -/
def set (tree : FileTree) (location : Location) (entry : Entry) : FileTree :=
  ⟨(location, entry) :: (tree.erase location).entries⟩

/-- The tree without a place and all that is below it. -/
def eraseBelow (tree : FileTree) (location : Location) : FileTree :=
  ⟨tree.entries.filter fun pair => !location.isPrefixOf pair.1⟩

/-- The entries below a place, a directory before its content and names in the order of their bytes. -/
def listing (tree : FileTree) (base : Location) : List (Location × Entry) :=
  -- Comparing places name by name puts each directory's content right after it.
  let below := tree.entries.filterMap fun (location, entry) =>
    if base.isPrefixOf location then some (location.drop base.length, entry) else none
  (below.filter fun pair => pair.1 ≠ []).mergeSort fun left right => decide (left.1 ≤ right.1)

/-- The root is a directory. -/
@[simp]
theorem lookup_root (tree : FileTree) : tree.lookup [] = some .directory := by
  simp [lookup]

/-- Erasing a place changes no other place. -/
theorem lookup_erase (tree : FileTree) (place other : Location) :
    (tree.erase place).lookup other =
      if other = [] then some .directory else if other = place then none else tree.lookup other := by
  -- The search for another place skips what was erased; the search for the place itself finds nothing.
  by_cases root : other = []
  · simp [root]
  · by_cases same : other = place
    · subst same
      simp [lookup, erase, root, List.find?_filter]
    · have skips : ∀ pair : Location × Entry,
          (!decide (pair.1 = place) && decide (pair.1 = other)) = decide (pair.1 = other) := by
        intro pair
        by_cases held : pair.1 = other <;> simp [held, same]
      simp [lookup, erase, root, same, List.find?_filter, skips]

/-- Setting a place is seen there and nowhere else. -/
theorem lookup_set (tree : FileTree) (place other : Location) (entry : Entry) :
    (tree.set place entry).lookup other =
      if other = [] then some .directory else if other = place then some entry else tree.lookup other := by
  -- The new pair stands first, and behind it the place has been erased.
  by_cases root : other = []
  · simp [root]
  · by_cases same : other = place
    · simp [lookup, set, same]
    · have elsewhere := lookup_erase tree place other
      have apart : place ≠ other := fun equal => same equal.symm
      simp only [lookup, root, same, if_false] at elsewhere ⊢
      simp [set, apart, elsewhere]

end FileTree

end ImageHeader
