import ImageHeader.Generator
import ImageHeader.Proofs.FileTree.Naming
import Mathlib.Data.List.Induction

/-! Spelling: the place that a path spells lexically, and that walks end there in trees without links. -/

namespace ImageHeader

/-- The place after a step that follows no link. -/
def Step.move (here : Location) : Step → Location
  | .stay | .slash => here
  | .up => here.dropLast
  | .enter name => here ++ [name]

/-- The place of a spot. -/
def Spot.place : Spot → Location
  | .directory location => location
  | .named parent name _ => parent ++ [name]

namespace Path

variable {here : Location} {path : Path}

/-- The place that the steps of a path spell. -/
def spelled (path : Path) (here : Location) : Location := path.steps.foldl Step.move (path.origin here)

/-- A name that stands for itself in a path. -/
structure Proper (name : Name) : Prop where
  step : step? name = some (.enter name)
  closed : slash ∉ name

/-- Pieces spell the same place as parts and as steps. -/
theorem foldl_follow_pieces (pieces : List Name) (here : Location) :
    (pieces.filterMap component?).foldl follow here = (pieces.filterMap step?).foldl Step.move here := by
  induction pieces generalizing here with
  | nil => rfl
  | cons piece rest ih =>
    -- A piece stands for the same move either way; only a dot is a step and no part.
    by_cases none : piece = []
    · simpa [none, component?, step?] using ih here
    · by_cases single : piece = [dot]
      · simpa [single, component?, step?, Step.move] using ih here
      · by_cases double : piece = [dot, dot]
        · subst double
          simpa [component?, step?, Step.move, follow, dot] using ih here.dropLast
        · simpa [none, single, double, component?, step?, Step.move, follow] using ih (here ++ [piece])

/-- The slash at the end of a path moves nowhere. -/
theorem foldl_steps (path : Path) (here : Location) :
    path.steps.foldl Step.move here = (path.pieces.filterMap step?).foldl Step.move here := by
  unfold steps
  -- A path with a slash at its end has one step more.
  split
  · simp [Step.move]
  · rfl

/-- A path that starts at the root has nothing before its first slash. -/
theorem pieces_of_isAbsolute (absolute : path.isAbsolute = true) :
    path.pieces = [] :: path.bytes.tail.splitOn slash := by
  -- The first byte is a slash, so the first cut is before everything else.
  unfold isAbsolute at absolute
  unfold pieces
  cases bytes : path.bytes with
  | nil => simp [bytes] at absolute
  | cons first rest =>
    obtain rfl : first = slash := by simpa [bytes] using absolute
    exact List.splitOn_append_cons_self [] rest

/-- The place that a path spells is what its parts spell, whether it starts at the root or not. -/
theorem foldl_follow_components (path : Path) (here : Location) :
    path.components.foldl follow here = path.spelled here := by
  unfold spelled
  rw [foldl_steps]
  unfold components
  cases cut : path.pieces with
  | nil => exact absurd cut (List.splitOn_ne_nil slash path.bytes)
  | cons first rest =>
    have more := foldl_follow_pieces rest
    cases absolute : path.isAbsolute with
    | true =>
      -- The empty piece before the first slash is the root.
      obtain rfl : first = [] := by
        have shape := pieces_of_isAbsolute absolute
        rw [cut] at shape
        exact (List.cons.inj shape).1
      simpa [origin, absolute, follow, step?] using more []
    | false =>
      -- Here the first piece is a part like the others, but for a dot that is kept.
      have whole := foldl_follow_pieces (first :: rest) here
      rw [origin, absolute, if_neg (by simp), ← whole]
      by_cases single : first = [dot]
      · simp [single, follow, component?]
      · cases first_ : component? first <;> simp [single, first_]

/-- The absolute path of a place, continued. -/
theorem pieces_below (below : ∀ name ∈ here, Proper name) (rest : List UInt8) :
    (here.flatMap (fun name => slash :: name) ++ slash :: rest).splitOn slash =
      [] :: (here ++ rest.splitOn slash) := by
  induction here with
  | nil => exact List.splitOn_append_cons_self [] rest
  | cons name names ih =>
    -- What follows the name starts with a slash, and is cut there.
    have after := ih fun other member => below other (List.mem_cons_of_mem _ member)
    have opened : ∃ tail, names.flatMap (fun name => slash :: name) ++ slash :: rest = slash :: tail := by
      cases names with
      | nil => exact ⟨rest, rfl⟩
      | cons next more => exact ⟨_, rfl⟩
    obtain ⟨tail, shape⟩ := opened
    have closed : slash ∉ name := (below name List.mem_cons_self).closed
    rw [shape] at after
    -- The slash after the name is where the rest was cut.
    have cut := List.splitOn_append_cons_self (a := slash) [] tail
    rw [List.nil_append, after] at cut
    have rests : tail.splitOn slash = names ++ rest.splitOn slash := by
      simpa using cut.symm
    rw [List.flatMap_cons, List.append_assoc, List.cons_append, shape]
    have first := List.splitOn_append_cons_self (a := slash) [] (name ++ slash :: tail)
    rw [List.nil_append] at first
    -- The name holds no slash, so it is one piece.
    rw [first, List.splitOn_append_cons_self_of_not_mem closed, rests]
    rfl

/-- The path of a place starts at the root. -/
theorem isAbsolute_ofLocation (place : Location) : (ofLocation place).isAbsolute = true := by
  cases place <;> simp [ofLocation, isAbsolute]

/-- A name that stands for itself is not empty. -/
theorem Proper.ne_nil {name : Name} (proper : Proper name) : name ≠ [] := by
  rintro rfl
  have step := proper.step
  simp [step?] at step

/-- A path that ends with it ends without a slash. -/
theorem Proper.getLast?_ne {name : Name} (proper : Proper name) (front : List UInt8) :
    (front ++ name).getLast? ≠ some slash := by
  rw [List.getLast?_append, List.getLast?_eq_some_getLast proper.ne_nil, Option.some_or]
  intro same
  exact proper.closed (Option.some.inj same ▸ List.getLast_mem proper.ne_nil)

/-- The bytes of a place are its names with slashes before them. -/
theorem bytes_ofLocation (below : here ≠ []) :
    (ofLocation here).bytes = here.flatMap fun name => slash :: name := by
  cases here with
  | nil => exact absurd rfl below
  | cons name rest => rfl

/-- The path of a place below the root ends without a slash. -/
theorem getLast?_ofLocation_ne (below : ∀ name ∈ here, Proper name) (some_ : here ≠ []) :
    (ofLocation here).bytes.getLast? ≠ some slash := by
  rw [bytes_ofLocation some_]
  rcases here.eq_nil_or_concat with rfl | ⟨above, name, rfl⟩
  · exact absurd rfl some_
  · -- The last byte belongs to the last name.
    have last := (below name (by simp)).getLast?_ne (above.flatMap (fun name => slash :: name) ++ [slash])
    simpa using last

/-- Joining a relative path to the absolute path of a place puts one slash between them. -/
theorem join_ofLocation (below : ∀ name ∈ here, Proper name) (relative : path.isAbsolute = false) :
    (ofLocation here).join path = ⟨here.flatMap (fun name => slash :: name) ++ slash :: path.bytes⟩ := by
  unfold join
  rw [relative, if_neg (by simp)]
  by_cases root : here = []
  · subst root
    simp [ofLocation]
  · have open_ := getLast?_ofLocation_ne below root
    rw [bytes_ofLocation root] at open_ ⊢
    cases last : (here.flatMap fun name => slash :: name).getLast? with
    | none =>
      -- There is a name, and so a slash before it.
      obtain ⟨name, rest, rfl⟩ := List.exists_cons_of_ne_nil root
      simp at last
    | some byte =>
      rw [last] at open_
      exact if_neg fun same => open_ (congrArg some same)

/-- The names of a place are steps that lead to it from the root. -/
theorem foldl_move_proper (below : ∀ name ∈ here, Proper name) (start : Location) :
    (here.filterMap step?).foldl Step.move start = start ++ here := by
  -- Every proper name is a step that enters it.
  induction here generalizing start with
  | nil => simp
  | cons name rest ih =>
    have step := (below name List.mem_cons_self).step
    have more := ih (fun other member => below other (List.mem_cons_of_mem _ member)) (start ++ [name])
    simpa [step, Step.move] using more

/-- Below a place a relative path spells what its steps spell from there. -/
theorem lexicalLocation_join (below : ∀ name ∈ here, Proper name)
    (relative : path.isAbsolute = false) :
    ((ofLocation here).join path).lexicalLocation = path.spelled here := by
  -- The pieces of the joined path are the names of the place, and then the pieces of the relative path.
  have absolute : ((ofLocation here).join path).isAbsolute = true := by
    rw [join_ofLocation below relative]
    cases here <;> simp [isAbsolute]
  have cut : ((ofLocation here).join path).pieces = [] :: (here ++ path.pieces) := by
    rw [join_ofLocation below relative]
    exact pieces_below below path.bytes
  rw [lexicalLocation, foldl_follow_components, spelled, spelled, origin, absolute, origin, relative,
    foldl_steps, foldl_steps, cut]
  -- From the root the steps first come down to the place, and then go on from it.
  have start := foldl_move_proper below []
  simp [step?, start]

/-- A piece between slashes holds no slash. -/
theorem slash_notMem_of_mem_splitOn {bytes piece : List UInt8} (member : piece ∈ bytes.splitOn slash) :
    slash ∉ piece := by
  induction bytes generalizing piece with
  | nil => simp_all
  | cons first rest ih =>
    rw [List.splitOn_cons_eq_if_modifyHead] at member
    split at member
    · -- Before a slash there is an empty piece.
      obtain rfl | later := List.mem_cons.mp member
      · simp
      · exact ih later
    · -- Any other byte belongs to the first piece of the rest.
      rename_i other
      cases cut : rest.splitOn slash with
      | nil => exact absurd cut (List.splitOn_ne_nil slash rest)
      | cons piece' pieces =>
        rw [cut, List.modifyHead_cons] at member
        obtain rfl | later := List.mem_cons.mp member
        · have closed : slash ∉ piece' := ih (cut ▸ List.mem_cons_self)
          have apart : slash ≠ first := by
            rintro rfl
            exact other (beq_self_eq_true slash)
          exact List.not_mem_cons_of_ne_of_not_mem apart closed
        · exact ih (cut ▸ List.mem_cons_of_mem _ later)

/-- A piece that enters a name is that name. -/
theorem proper_of_step? {piece name : Name} (closed : slash ∉ piece) (step : step? piece = some (.enter name)) :
    Proper name := by
  obtain rfl : piece = name := by
    unfold step? at step
    grind
  exact ⟨step, closed⟩

/-- The names that a path enters stand for themselves. -/
theorem proper_of_mem_steps {name : Name} (member : .enter name ∈ path.steps) : Proper name := by
  -- A slash at the end is no name.
  have named : .enter name ∈ path.pieces.filterMap step? := by
    unfold steps at member
    split at member <;> simpa using member
  obtain ⟨piece, cut, step⟩ := List.mem_filterMap.mp named
  exact proper_of_step? (slash_notMem_of_mem_splitOn cut) step

/-- Steps that enter only names that stand for themselves lead from a place of such names to another one. -/
theorem proper_of_mem_moves {steps : List Step} (entered : ∀ name, .enter name ∈ steps → Proper name)
    (begun : ∀ name ∈ here, Proper name) : ∀ name ∈ steps.foldl Step.move here, Proper name := by
  induction steps generalizing here with
  | nil => exact begun
  | cons step rest ih =>
    refine ih (fun name member => entered name (List.mem_cons_of_mem _ member)) ?_
    intro name member
    cases step with
    | stay | slash => exact begun name member
    | up => exact begun name (List.dropLast_subset here member)
    | enter next =>
      -- The place grows by the name that is entered.
      rcases List.mem_append.mp member with earlier | last
      · exact begun name earlier
      · obtain rfl := List.mem_singleton.mp last
        exact entered name List.mem_cons_self

/-- The names of a place that a path spells stand for themselves, if those of the place from which it is spelled do. -/
theorem proper_of_mem_spelled (begun : path.isAbsolute = false → ∀ name ∈ here, Proper name) :
    ∀ name ∈ path.spelled here, Proper name := by
  refine proper_of_mem_moves (fun _ => proper_of_mem_steps) ?_
  -- An absolute path begins at the root, where there is no name yet.
  unfold origin
  split
  · simp
  · rename_i relative
    exact begun (by simpa using relative)

end Path

namespace FileTree

variable {tree made : FileTree} {purpose : Purpose} {links : Nat} {here place : Location}
  {path : Path} {steps : List Step} {spot : Spot} {entry : Entry}

/-- A tree without links. -/
def LinkFree (tree : FileTree) : Prop := ∀ place target, tree.lookup place ≠ some (.link target)

/-- Every entry stands in a directory, under a name that a path can spell. -/
structure Grounded (tree : FileTree) : Prop where
  parent : ∀ above name entry, tree.lookup (above ++ [name]) = some entry →
    tree.lookup above = some .directory
  proper : ∀ above name entry, tree.lookup (above ++ [name]) = some entry → Path.Proper name

/-- What stands at a place below the root is one of the entries. -/
theorem mem_entries_of_lookup (below : place ≠ []) (standing : tree.lookup place = some entry) :
    (place, entry) ∈ tree.entries := by
  rw [lookup, if_neg below, Option.map_eq_some_iff] at standing
  obtain ⟨⟨at_, found⟩, search, rfl⟩ := standing
  -- The search stops at an entry of that place.
  obtain rfl : at_ = place := by simpa using List.find?_some search
  exact List.mem_of_find?_eq_some search

/-- Where no entry is a link there are no links. -/
theorem LinkFree.of_entries (plain : ∀ pair ∈ tree.entries, ∀ target, pair.2 ≠ .link target) :
    tree.LinkFree := by
  intro place target link
  by_cases root : place = []
  · simp [root] at link
  · exact plain _ (mem_entries_of_lookup root link) target rfl

/-- Where there are no links, an entry that is no directory is in nobody's way. -/
theorem LinkFree.shut (linkFree : tree.LinkFree) (standing : tree.lookup place = some entry)
    (solid : entry ≠ .directory) : tree.Shut place := by
  refine ⟨?_, linkFree place⟩
  rw [standing]
  exact fun same => solid (Option.some.inj same)

/-- A tree is grounded if each of its entries stands in a directory, under a proper name. -/
theorem Grounded.of_entries
    (standing : ∀ pair ∈ tree.entries, tree.lookup pair.1.dropLast = some .directory ∧
      ∀ name ∈ pair.1.getLast?, Path.step? name = some (.enter name) ∧ Path.slash ∉ name) :
    tree.Grounded := by
  constructor
  · intro above name entry found
    have first := (standing _ (mem_entries_of_lookup (by simp) found)).1
    rwa [List.dropLast_concat] at first
  · intro above name entry found
    obtain ⟨step, closed⟩ := (standing _ (mem_entries_of_lookup (by simp) found)).2 name (by simp)
    exact ⟨step, closed⟩

/-- Above a directory there is a directory. -/
theorem Grounded.directory_dropLast (grounded : tree.Grounded) (standing : tree.lookup here = some .directory) :
    tree.lookup here.dropLast = some .directory := by
  -- Above the root there is the root itself.
  rcases here.eq_nil_or_concat with rfl | ⟨above, name, rfl⟩
  · exact standing
  · rw [List.concat_eq_append] at standing ⊢
    rw [List.dropLast_concat]
    exact grounded.parent above name .directory standing

/-- The names that lead to an entry can all be spelled. -/
theorem Grounded.below (grounded : tree.Grounded) (standing : tree.lookup place = some entry) :
    ∀ name ∈ place, Path.Proper name := by
  -- The induction goes from the entry up to the root.
  induction place using List.reverseRecOn generalizing entry with
  | nil => simp
  | append_singleton above last ih =>
    intro name member
    rcases List.mem_append.mp member with earlier | final
    · exact ih (grounded.parent above last entry standing) name earlier
    · obtain rfl := List.mem_singleton.mp final
      exact grounded.proper above name entry standing

/-- Where there are no links, a route ends where its steps lead. -/
theorem Route.place_eq (linkFree : tree.LinkFree)
    (route : Route tree purpose links here steps spot) : spot.place = steps.foldl Step.move here := by
  -- The induction is on the route, of which no part follows a link.
  induction route with
  | stop => rfl
  | stay _ ih | slash _ ih | up _ ih | enter _ _ _ _ ih => exact ih
  | @arrive _ _ _ slashed _ _ _ => cases slashed <;> rfl
  | follow _ _ found _ _ => exact absurd found (linkFree _ _)

/-- Where there are no links, a path names the place that it spells. -/
theorem eq_spelled_of_named? (linkFree : tree.LinkFree)
    (named : tree.named? here path = some place) : place = path.spelled here := by
  obtain ⟨parent, name, rfl, walked⟩ := named?_eq_some.mp named
  -- The place of a name is that of the spot at which its walk ends.
  exact (walk_eq_ok.mp walked).2.place_eq linkFree

/-- Where there are no links, a file is made at the place that its path spells. -/
theorem eq_spelled_of_create (linkFree : tree.LinkFree)
    (created : tree.create here path = .ok (made, place)) : place = path.spelled here := by
  obtain ⟨parent, name, rfl, walked, _⟩ := create_eq_ok created
  -- The file is at the spot at which the walk of its maker ends.
  exact (walk_eq_ok.mp walked).2.place_eq linkFree

end FileTree

/-- The place that a host takes a path to spell is the one that its steps spell from the working directory. -/
theorem Host.lexicalLocation_eq {host : Host} {path : Path} {place : Location}
    (grounded : host.tree.Grounded) (spelled : host.lexicalLocation path = .ok place) :
    place = path.spelled host.workingDirectory := by
  unfold lexicalLocation at spelled
  split at spelled
  · -- A path from the root spells the same from everywhere.
    rename_i absolute
    cases spelled
    rw [Path.lexicalLocation, Path.foldl_follow_components, Path.spelled, Path.spelled,
      Path.origin, Path.origin, if_pos absolute, if_pos absolute]
  · rename_i relative
    split at spelled
    · cases spelled
    · rename_i directory current
      cases spelled
      -- A working directory that is there stands under names that can be spelled.
      unfold currentDirectory at current
      split at current
      · rename_i standing
        cases current
        exact Path.lexicalLocation_join (grounded.below standing) (by simpa using relative)
      · cases current

/-- In a grounded tree all names of a place that a path spells stand for themselves. -/
theorem Host.proper_of_lexicalLocation {host : Host} {path : Path} {place : Location}
    (grounded : host.tree.Grounded) (spelled : host.lexicalLocation path = .ok place) :
    ∀ name ∈ place, Path.Proper name := by
  obtain rfl := lexicalLocation_eq grounded spelled
  -- A relative path is spelled below a working directory that is there.
  refine Path.proper_of_mem_spelled fun relative => ?_
  rw [lexicalLocation, if_neg (by simp [relative]), currentDirectory] at spelled
  split at spelled
  · cases spelled
  · rename_i current
    split at current
    · rename_i standing
      exact grounded.below standing
    · cases current

end ImageHeader
