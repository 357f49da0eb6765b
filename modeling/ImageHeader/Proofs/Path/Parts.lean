import ImageHeader.Proofs.FileTree.Spelling

/-! Parts: what is left of a path without its dots, and that this alone decides which place the path spells. -/

namespace ImageHeader

namespace Path

variable {directory path other : Path}

/-- A piece between slashes stands neither for the root nor for a dot. -/
theorem ne_of_component? {piece : Name} {part : Component} (stands : component? piece = some part) :
    part ≠ .root ∧ part ≠ .current := by
  unfold component? at stands
  -- What a piece can stand for is the directory above, or a name.
  split at stands
  · cases stands
  · split at stands <;> cases stands <;> simp

/-- Without dots a path is the root, if it starts there, and then what each of its pieces stands for. -/
theorem essentialComponents_eq (path : Path) :
    path.essentialComponents =
      (if path.isAbsolute then [.root] else []) ++ path.pieces.filterMap component? := by
  -- No piece stands for a dot, so leaving out the dots leaves all that the pieces stand for.
  have kept (pieces : List Name) :
      (pieces.filterMap component?).filter (· ≠ .current) = pieces.filterMap component? := by
    refine List.filter_eq_self.mpr fun part member => ?_
    obtain ⟨piece, _, stands⟩ := List.mem_filterMap.mp member
    exact decide_eq_true (ne_of_component? stands).2
  unfold essentialComponents components
  cases cut : path.pieces with
  | nil => exact absurd cut (List.splitOn_ne_nil slash path.bytes)
  | cons first rest =>
    cases absolute : path.isAbsolute with
    | true =>
      -- The piece before the first slash is empty, and stands for nothing but the root.
      have shape := pieces_of_isAbsolute absolute
      rw [cut] at shape
      obtain rfl := (List.cons.inj shape).1
      have empty : component? [] = none := by simp [component?]
      have others := kept rest
      simpa [empty] using others
    | false =>
      have whole := kept (first :: rest)
      by_cases single : first = [dot]
      · -- A dot at the very beginning is the one that is kept as a part.
        have none : component? [dot] = none := by simp [component?]
        subst single
        simpa [none] using whole
      · cases stands : component? first with
        | none => simpa [single, stands] using whole
        | some part => simpa [single, stands] using whole

/-- A path starts at the root exactly if the root is one of its parts. -/
theorem isAbsolute_iff (path : Path) : path.isAbsolute = true ↔ .root ∈ path.essentialComponents := by
  rw [essentialComponents_eq]
  constructor
  · intro absolute
    simp [absolute]
  · intro member
    rcases List.mem_append.mp member with first | later
    · -- Only a path that starts at the root has something in front of its pieces.
      by_contra relative
      simp [relative] at first
    · obtain ⟨piece, _, stands⟩ := List.mem_filterMap.mp later
      exact absurd rfl (ne_of_component? stands).1

/-- Of two paths with the same parts both start at the root, or neither does. -/
theorem isAbsolute_congr (same : path.essentialComponents = other.essentialComponents) :
    path.isAbsolute = other.isAbsolute := by
  rw [Bool.eq_iff_iff, isAbsolute_iff, isAbsolute_iff, same]

/-- Dots lead nowhere. -/
theorem foldl_follow_essential (parts : List Component) (here : Location) :
    (parts.filter (· ≠ .current)).foldl follow here = parts.foldl follow here := by
  -- The induction is on the parts; a dot leads nowhere else.
  induction parts generalizing here with
  | nil => rfl
  | cons part rest ih =>
    by_cases single : part = .current
    · subst single
      simpa [follow] using ih here
    · simpa [single] using ih (follow here part)

/-- Paths with the same parts spell the same place. -/
theorem lexicalLocation_congr (same : path.essentialComponents = other.essentialComponents) :
    path.lexicalLocation = other.lexicalLocation := by
  rw [lexicalLocation, lexicalLocation, ← foldl_follow_essential path.components,
    ← foldl_follow_essential other.components]
  exact congrArg (List.foldl follow []) same

section Joining

variable (relative : path.isAbsolute = false)
include relative

/-- Below a directory a relative path starts where the directory does. -/
theorem isAbsolute_join_relative : (directory.join path).isAbsolute = directory.isAbsolute := by
  unfold join
  rw [relative, if_neg (by simp)]
  -- The bytes of the directory come first, if there are any.
  cases bytes : directory.bytes with
  | nil => simpa [isAbsolute, bytes] using relative
  | cons first rest =>
    rw [List.getLast?_eq_some_getLast (List.cons_ne_nil first rest)]
    dsimp only
    split <;> simp [isAbsolute, bytes]

/-- The pieces of a relative path stand behind those of the directory that it is joined to, but for empty ones. -/
theorem filterMap_pieces_join {α : Type} {stands : Name → Option α} (empty : stands [] = none) :
    (directory.join path).pieces.filterMap stands =
      directory.pieces.filterMap stands ++ path.pieces.filterMap stands := by
  unfold join
  rw [relative, if_neg (by simp)]
  rcases directory.bytes.eq_nil_or_concat with none | ⟨front, last, bytes⟩
  · -- An empty directory has one piece, which is empty.
    simp [pieces, none, empty]
  · rw [List.concat_eq_append] at bytes
    rw [bytes, List.getLast?_concat]
    dsimp only
    by_cases closed : last = slash
    · -- The slash at the end of the directory is the one between the two.
      subst closed
      have cut := List.splitOn_append_cons_self (a := slash) front path.bytes
      have ending := List.splitOn_append_cons_self (a := slash) front []
      simp [pieces, bytes, cut, ending, empty]
    · have cut := List.splitOn_append_cons_self (a := slash) (front ++ [last]) path.bytes
      rw [if_neg closed]
      simp only [pieces, bytes, cut, List.filterMap_append]

/-- The parts of a relative path stand behind those of the directory that it is joined to. -/
theorem essentialComponents_join : (directory.join path).essentialComponents =
    directory.essentialComponents ++ path.essentialComponents := by
  have empty : component? [] = none := by simp [component?]
  rw [essentialComponents_eq, essentialComponents_eq directory, essentialComponents_eq path,
    isAbsolute_join_relative relative, filterMap_pieces_join relative empty, relative]
  simp

end Joining

/-- Paths with the same parts have the same parts below every directory. -/
theorem essentialComponents_join_congr (same : path.essentialComponents = other.essentialComponents)
    (relative : path.isAbsolute = false) :
    (directory.join path).essentialComponents = (directory.join other).essentialComponents := by
  have relative' : other.isAbsolute = false := (isAbsolute_congr same).symm.trans relative
  rw [essentialComponents_join relative, essentialComponents_join relative', same]

end Path

/-- Paths with the same parts spell the same place on every host, or neither spells one. -/
theorem Host.lexicalLocation_congr {path other : Path}
    (same : path.essentialComponents = other.essentialComponents) (host : Host) :
    host.lexicalLocation path = host.lexicalLocation other := by
  have alike := Path.isAbsolute_congr same
  unfold lexicalLocation
  cases absolute : path.isAbsolute with
  | true =>
    rw [absolute] at alike
    simp [← alike, Path.lexicalLocation_congr same]
  | false =>
    rw [absolute] at alike
    -- Both are spelled from the working directory, if that is there.
    cases host.currentDirectory with
    | error cause => simp [← alike]
    | ok directory =>
      have joined : (directory.join path).essentialComponents = (directory.join other).essentialComponents :=
        Path.essentialComponents_join_congr same absolute
      simp [← alike, Path.lexicalLocation_congr joined]

/-- Paths with the same parts still have the same parts where a generator looks for them. -/
theorem Generator.essentialComponents_resolve {path other : Path}
    (same : path.essentialComponents = other.essentialComponents) (generator : Generator) :
    (generator.resolve path).essentialComponents = (generator.resolve other).essentialComponents := by
  -- Both paths are relative or neither is, so the directory is put in front of both or of neither.
  have alike := Path.isAbsolute_congr same
  unfold resolve
  cases generator.baseDirectory with
  | none => exact same
  | some directory =>
    cases absolute : path.isAbsolute with
    | true =>
      rw [absolute] at alike
      simpa [← alike] using same
    | false =>
      rw [absolute] at alike
      simpa [← alike] using Path.essentialComponents_join_congr same absolute

end ImageHeader
