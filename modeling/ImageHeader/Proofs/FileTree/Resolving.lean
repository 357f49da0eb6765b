import ImageHeader.Proofs.FileTree.Showing
import ImageHeader.Proofs.Path.Parts

/-!
Resolving: a place that was found can be spelled by its names alone, and whatever goes on from it goes on as before.

Where steps have led to a directory, more steps lead from there as if they had begun there, but for the links that were
followed on the way. Where they have led to anything else, no more steps can be taken.
-/

namespace ImageHeader

/-- A name that is left is not the end. -/
theorem Step.not_atEnd_enter (name : Name) (rest : List Step) : ¬AtEnd (.enter name :: rest) := by
  rintro ⟨slashed, same⟩
  -- At the end there is a slash or nothing.
  cases slashed <;> cases same

namespace Path

variable {here place : Location} {path directory : Path} {name : Name}

/-- A name that stands for itself does not begin at the root. -/
theorem Proper.isAbsolute_eq (proper : Proper name) : isAbsolute ⟨name⟩ = false := by
  cases name with
  | nil => rfl
  | cons first rest =>
    -- A slash in front would be a slash in the name.
    have other : first ≠ slash := fun same => proper.closed (same ▸ List.mem_cons_self)
    simpa [isAbsolute] using other

/-- Without a slash at its end a path has only the steps of its pieces. -/
theorem steps_of_open (open_ : path.bytes.getLast? ≠ some slash) : path.steps = path.pieces.filterMap step? :=
  if_neg open_

/-- Names that stand for themselves are entered one after the other. -/
theorem filterMap_step?_proper (below : ∀ name ∈ place, Proper name) :
    place.filterMap step? = place.map .enter := by
  -- The induction is on the names, of which each is a step of its own.
  induction place with
  | nil => rfl
  | cons name rest ih =>
    have step := (below name List.mem_cons_self).step
    simp [step, ih fun other member => below other (List.mem_cons_of_mem _ member)]

/-- The path of a place is cut into its names. -/
theorem pieces_ofLocation (below : ∀ name ∈ place, Proper name) (some_ : place ≠ []) :
    (ofLocation place).pieces = [] :: place := by
  rw [pieces, bytes_ofLocation some_]
  rcases place.eq_nil_or_concat with rfl | ⟨above, name, rfl⟩
  · exact absurd rfl some_
  · rw [List.concat_eq_append] at below ⊢
    -- All names but the last have a slash behind them, and the last one has none inside.
    have whole := pieces_below (fun other member => below other (List.mem_append_left _ member)) name
    rw [List.splitOn_eq_singleton (below name (by simp)).closed] at whole
    simpa using whole

/-- The path of a place enters its names. -/
theorem steps_ofLocation (below : ∀ name ∈ place, Proper name) (some_ : place ≠ []) :
    (ofLocation place).steps = place.map .enter := by
  -- The piece in front of the first slash is empty, and gives no step.
  rw [steps_of_open (getLast?_ofLocation_ne below some_), pieces_ofLocation below some_,
    List.filterMap_cons_none (by simp [step?]), filterMap_step?_proper below]

/-- A name that is entered is a part of its own. -/
theorem component?_of_step? {piece : Name} (step : step? piece = some (.enter name)) :
    component? piece = some (.name name) := by
  -- Steps and parts are told apart by the same three pieces: the empty one, one dot and two dots.
  unfold step? at step
  unfold component?
  grind

/-- The parts of the path of a place are the root and its names. -/
theorem components_ofLocation (below : ∀ name ∈ place, Proper name) :
    (ofLocation place).components = .root :: place.map .name := by
  -- The names stay as they are, since none of them is a dot or two.
  have named : place.filterMap component? = place.map .name := by
    induction place with
    | nil => rfl
    | cons name rest ih =>
      have part := component?_of_step? (below name List.mem_cons_self).step
      simp [part, ih fun other member => below other (List.mem_cons_of_mem _ member)]
  by_cases root : place = []
  · subst root
    decide
  · rw [components, pieces_ofLocation below root, isAbsolute_ofLocation]
    simp [named]

/-- Below a place a relative path has its own steps behind the names of the place, unless there are none or a slash at
most. -/
theorem exists_steps_join (below : ∀ name ∈ here, Proper name) (relative : path.isAbsolute = false) :
    ∃ more, ((ofLocation here).join path).steps = here.map .enter ++ more ∧
      (more = path.steps ∨ Step.AtEnd more ∧ Step.AtEnd path.steps) := by
  have joined := join_ofLocation below relative
  -- Cut at its slashes, the joined path has the names of the place, and then its own pieces.
  have named : ((ofLocation here).join path).pieces.filterMap step? =
      here.map .enter ++ path.pieces.filterMap step? := by
    rw [joined, pieces, pieces_below below, List.filterMap_cons_none (by simp [step?]), List.filterMap_append,
      filterMap_step?_proper below]
    rfl
  by_cases filled : path.bytes = []
  · -- The slash between the two is left at the end.
    have last : ((ofLocation here).join path).bytes.getLast? = some slash := by simp [joined, filled]
    have none : path.pieces.filterMap step? = [] := by simp [pieces, filled, step?]
    refine ⟨[.slash], ?_, .inr ⟨⟨true, rfl⟩, ⟨false, ?_⟩⟩⟩
    · rw [steps, if_pos last, named, none, List.append_nil]
    · rw [steps, if_neg (by simp [filled]), none]
      rfl
  · -- A path that has some bytes brings its own end, with a slash or without.
    have last : ((ofLocation here).join path).bytes.getLast? = path.bytes.getLast? := by
      rw [joined, List.getLast?_append, List.getLast?_cons_of_ne_nil filled, List.getLast?_eq_some_getLast filled]
      rfl
    refine ⟨path.steps, ?_, .inl rfl⟩
    unfold steps
    rw [last, named]
    split
    · rw [List.append_assoc]
    · rfl

/-- A name that is joined to a directory is entered behind its pieces, of whose end no slash is left. -/
theorem steps_join_name (proper : Proper name) :
    (directory.join ⟨name⟩).steps = directory.pieces.filterMap step? ++ [.enter name] := by
  have relative := proper.isAbsolute_eq
  -- The joined path ends in the name, whether a slash had to be put in between or was there.
  have open_ : (directory.join ⟨name⟩).bytes.getLast? ≠ some slash := by
    unfold join
    rw [relative, if_neg (by simp)]
    cases directory.bytes.getLast? with
    | none => exact proper.getLast?_ne []
    | some last =>
      dsimp only
      split
      · exact proper.getLast?_ne directory.bytes
      · have ending := proper.getLast?_ne (directory.bytes ++ [slash])
        rwa [← List.append_cons] at ending
  have piece : (⟨name⟩ : Path).pieces = [name] := List.splitOn_eq_singleton proper.closed
  rw [steps_of_open open_, filterMap_pieces_join relative (by simp [step?]), piece,
    List.filterMap_cons_some proper.step, List.filterMap_nil]

end Path

namespace FileTree

variable {tree : FileTree} {purpose : Purpose} {links : Nat} {here place : Location} {path : Path} {name : Name}
  {steps rest : List Step} {spot : Spot} {entry : Entry}

section Standing

/-- Every name is one that a system can store: it is not too long, and has no zero byte. -/
structure Storable (tree : FileTree) : Prop where
  short : ∀ place entry, tree.lookup place = some entry → ∀ name ∈ place, name.length ≤ Path.nameLimit
  clean : ∀ place entry, tree.lookup place = some entry → ∀ name ∈ place, 0 ∉ name

/-- All names can be stored if those of each entry can. -/
theorem Storable.of_entries
    (stored : ∀ pair ∈ tree.entries, ∀ name ∈ pair.1, name.length ≤ Path.nameLimit ∧ 0 ∉ name) : tree.Storable := by
  -- A place that holds something is the root, which has no names, or that of an entry.
  have both (place : Location) (entry : Entry) (standing : tree.lookup place = some entry) :
      ∀ name ∈ place, name.length ≤ Path.nameLimit ∧ 0 ∉ name := by
    by_cases root : place = []
    · simp [root]
    · exact stored _ (mem_entries_of_lookup root standing)
  exact ⟨fun place entry standing name member => (both place entry standing name member).1,
    fun place entry standing name member => (both place entry standing name member).2⟩

/-- What stands below another place stands below a directory. -/
theorem Grounded.directory_above {above below : Location} (grounded : tree.Grounded) (some_ : below ≠ [])
    (standing : tree.lookup (above ++ below) = some entry) : tree.lookup above = some .directory := by
  -- The induction goes up from the last name, whose parent is a directory.
  induction below using List.reverseRecOn generalizing entry with
  | nil => exact absurd rfl some_
  | append_singleton below name ih =>
    rw [← List.append_assoc] at standing
    have held := grounded.parent _ _ _ standing
    rcases below.eq_nil_or_concat with rfl | ⟨_, _, rfl⟩
    · rwa [List.append_nil] at held
    · exact ih (by simp) held

/-- All that is above a directory is a directory. -/
theorem Grounded.directory_of_append {above below : Location} (grounded : tree.Grounded)
    (standing : tree.lookup (above ++ below) = some .directory) : tree.lookup above = some .directory := by
  -- With no names in between it is the same place.
  rcases below.eq_nil_or_concat with rfl | ⟨_, _, rfl⟩
  · rwa [List.append_nil] at standing
  · exact grounded.directory_above (by simp) standing

/-- A path that is met in a directory is followed from a directory. -/
theorem lookup_origin (standing : tree.lookup here = some .directory) (path : Path) :
    tree.lookup (path.origin here) = some .directory := by
  unfold Path.origin
  split
  · exact lookup_root tree
  · exact standing

end Standing

section Walks

/-- On the way a walk goes on in a directory or behind a link, and nowhere else. -/
theorem walkFrom_midway (midway : ¬Step.AtEnd rest) :
    tree.walkFrom purpose links here (.enter name :: rest) =
      match tree.nameFault? here name, tree.lookup (here ++ [name]), links with
      | some error, _, _ => .error error
      | none, none, _ => .error .notFound
      | none, some .directory, _ => tree.walkFrom purpose links (here ++ [name]) rest
      | none, some (.link _), 0 => .error .tooManyLinks
      | none, some (.link target), left + 1 =>
        tree.walkFrom purpose left (target.origin here) (target.steps ++ rest)
      | none, some _, _ => .error .notDirectory := by
  rw [walkFrom, descend_enter tree purpose here name midway]
  -- The name is looked at first, then what stands under it; only a link asks how many are left.
  cases tree.nameFault? here name with
  | some error => rfl
  | none =>
    rcases tree.lookup (here ++ [name]) with _ | (_ | _ | target | _)
    · rfl
    · dsimp only
      rw [walkFrom]
    · rfl
    · cases links <;> rfl
    · rfl

/-- A slash in the middle of a path changes nothing. -/
theorem walkFrom_append_slash (midway : ¬Step.AtEnd rest) :
    tree.walkFrom purpose links here (steps ++ .slash :: rest) =
      tree.walkFrom purpose links here (steps ++ rest) := by
  -- Each link leaves fewer of them, and between links the steps get fewer.
  induction links using Nat.strongRecOn generalizing here steps with
  | ind links fewer =>
    induction steps generalizing here with
    | nil => exact walkFrom_slash
    | cons step steps ih =>
      cases step with
      | stay => simpa using ih
      | slash => simpa using ih
      | up => simpa using ih
      | enter name =>
        -- With or without the slash the walk is not at its end here, and meets the same entry.
        have slashed : ¬Step.AtEnd (.slash :: rest) := Step.not_atEnd_append midway [.slash]
        rw [List.cons_append, List.cons_append, walkFrom_midway (Step.not_atEnd_append slashed steps),
          walkFrom_midway (Step.not_atEnd_append midway steps)]
        cases tree.nameFault? here name with
        | some error => rfl
        | none =>
          rcases tree.lookup (here ++ [name]) with _ | (_ | _ | target | _)
          · rfl
          · exact ih
          · rfl
          · cases links with
            | zero => rfl
            | succ left =>
              dsimp only
              -- The steps of the link come before, and one link fewer is left.
              rw [← List.append_assoc, ← List.append_assoc]
              exact fewer left (Nat.lt_succ_self left)
          · rfl

/-- A name that is joined to a path is entered behind the steps of that path. -/
theorem walkFrom_join_name (proper : Path.Proper name) :
    tree.walkFrom purpose links here (path.join ⟨name⟩).steps =
      tree.walkFrom purpose links here (path.steps ++ [.enter name]) := by
  rw [Path.steps_join_name proper, Path.steps]
  -- The slash at the end of the path now stands before the name.
  split
  · rw [List.append_assoc, List.singleton_append, walkFrom_append_slash (Step.not_atEnd_enter name [])]
  · rfl

/-- One who removes follows no link at the end, and so needs none to be left. -/
theorem walkFrom_removing_last (links links' : Nat) (here : Location) (name : Name) :
    tree.walkFrom .removing links here [.enter name] = tree.walkFrom .removing links' here [.enter name] := by
  have last := descend_last tree .removing here name false
  rw [Step.ending, if_neg (by simp)] at last
  rw [walkFrom, walkFrom, last]
  -- The walk arrives at the name, if that is not too long.
  cases arrived : tree.arrive .removing here name false with
  | error cause => rfl
  | ok halt =>
    obtain ⟨_, _, ⟨rfl, _⟩ | ⟨_, follows, _⟩⟩ := arrive_eq_ok arrived
    · rfl
    · exact absurd rfl follows

/-- Names that lead to a directory are entered one after the other. -/
theorem walkFrom_names {names : Location} (grounded : tree.Grounded) (storable : tree.Storable)
    (standing : tree.lookup (here ++ names) = some .directory) (midway : ¬Step.AtEnd rest) :
    tree.walkFrom purpose links here (names.map .enter ++ rest) = tree.walkFrom purpose links (here ++ names) rest := by
  -- The induction is on the names; each of them leads to a directory, since a directory stands below.
  induction names generalizing here with
  | nil => rw [List.map_nil, List.nil_append, List.append_nil]
  | cons name names ih =>
    have regrouped : here ++ name :: names = here ++ [name] ++ names := by simp
    have short := storable.short _ _ standing name (by simp)
    rw [regrouped] at standing ⊢
    rw [List.map_cons, List.cons_append,
      walkFrom_enter short (Step.not_atEnd_append midway _) (grounded.directory_of_append standing), ih standing]

end Walks

section Routes

/-- More links do not keep a route from its end. -/
theorem Route.more_links (route : Route tree purpose links here steps spot) (extra : Nat) :
    Route tree purpose (links + extra) here steps spot := by
  -- The induction is on the route; only a link that is followed counts them.
  induction route with
  | stop => exact .stop
  | stay _ ih => exact .stay ih
  | slash _ ih => exact .slash ih
  | up _ ih => exact .up ih
  | arrive short open_ solid => exact .arrive short open_ solid
  | enter short midway found _ ih => exact .enter short midway found ih
  | follow short follows found _ ih =>
    rw [Nat.add_right_comm]
    exact .follow short follows found ih

/-- A route from a directory that ends in a directory, and not at a name, ends in one that stands there. -/
theorem Route.lookup_of_directory {location : Location} (grounded : tree.Grounded)
    (begun : tree.lookup here = some .directory) (route : Route tree purpose links here steps spot)
    (ended : spot = .directory location) : tree.lookup location = some .directory := by
  -- The induction is on the route, and each of its steps comes to a directory again.
  induction route with
  | stop =>
    cases ended
    exact begun
  | stay _ ih | slash _ ih => exact ih begun ended
  | up _ ih => exact ih (grounded.directory_dropLast begun) ended
  | arrive => cases ended
  | enter _ _ found _ ih => exact ih found ended
  | follow _ _ _ _ ih => exact ih (lookup_origin begun _) ended

/-- What a reader's route settles for stands there, and is no link. -/
theorem Route.exists_entry (grounded : tree.Grounded) (begun : tree.lookup here = some .directory)
    (route : Route tree .opening links here steps spot) (settled : tree.settle spot = .ok place) :
    ∃ entry, tree.lookup place = some entry ∧ ∀ target, entry ≠ .link target := by
  have ended := place_of_settle settled
  -- The route ends in a directory, or at a name under which something has to stand.
  cases spot with
  | directory location =>
    subst ended
    exact ⟨.directory, route.lookup_of_directory grounded begun rfl, by simp⟩
  | named parent name slashed =>
    subst ended
    -- A reader does not rest at a link.
    have solid := route.rests (by simp) parent name slashed
    cases standing : tree.lookup (parent ++ [name]) with
    | none => simp [settle, standing] at settled
    | some entry =>
      refine ⟨entry, standing, ?_⟩
      rintro target rfl
      exact solid target rfl standing

/-- More steps behind a reader's route go on where it ends, with the links that are left; they do so only from a
directory. -/
theorem Route.exists_onward (grounded : tree.Grounded) (begun : tree.lookup here = some .directory)
    (route : Route tree .opening links here steps spot) (settled : tree.settle spot = .ok place) :
    ∃ left ≤ links, ∀ purpose extra rest, ¬Step.AtEnd rest →
      tree.walkFrom purpose (links + extra) here (steps ++ rest) =
        if tree.lookup place = some .directory then tree.walkFrom purpose (left + extra) place rest
        else .error .notDirectory := by
  -- The induction is on the route; at its end the spot is the place, and a directory there is entered.
  induction route with
  | stop =>
    cases settled
    exact ⟨_, Nat.le_refl _, fun purpose extra rest _ => by rw [if_pos begun, List.nil_append]⟩
  | stay _ ih =>
    obtain ⟨left, fewer, onward⟩ := ih begun settled
    refine ⟨left, fewer, fun purpose extra rest midway => ?_⟩
    rw [List.cons_append, walkFrom_stay, onward purpose extra rest midway]
  | slash _ ih =>
    obtain ⟨left, fewer, onward⟩ := ih begun settled
    refine ⟨left, fewer, fun purpose extra rest midway => ?_⟩
    rw [List.cons_append, walkFrom_slash, onward purpose extra rest midway]
  | up _ ih =>
    obtain ⟨left, fewer, onward⟩ := ih (grounded.directory_dropLast begun) settled
    refine ⟨left, fewer, fun purpose extra rest midway => ?_⟩
    rw [List.cons_append, walkFrom_up, onward purpose extra rest midway]
  | @arrive links here name slashed short _ solid =>
    obtain rfl := place_of_settle settled
    refine ⟨links, Nat.le_refl _, fun purpose extra rest midway => ?_⟩
    rw [List.cons_append, walkFrom_midway (Step.not_atEnd_append midway _), nameFault?_eq_none.mpr short]
    rw [Spot.place]
    -- The slash at the end of the route, if it has one, is now in the middle.
    have slash : tree.walkFrom purpose (links + extra) (here ++ [name]) (Step.ending slashed ++ rest) =
        tree.walkFrom purpose (links + extra) (here ++ [name]) rest := by
      cases slashed
      · rfl
      · exact walkFrom_slash
    rcases standing : tree.lookup (here ++ [name]) with _ | (_ | _ | target | _)
    · simp [settle, standing] at settled
    · simpa using slash
    · simp
    · exact absurd standing (solid (by simp) target)
    · simp
  | enter short midway' found _ ih =>
    obtain ⟨left, fewer, onward⟩ := ih found settled
    refine ⟨left, fewer, fun purpose extra rest midway => ?_⟩
    rw [List.cons_append, walkFrom_enter short (Step.not_atEnd_append midway _) found,
      onward purpose extra rest midway]
  | @follow links here name target steps spot short _ found _ ih =>
    -- The link takes one away; with more steps behind it, it is followed for any purpose.
    obtain ⟨left, fewer, onward⟩ := ih (lookup_origin begun target) settled
    refine ⟨left, Nat.le_succ_of_le fewer, fun purpose extra rest midway => ?_⟩
    have follows : purpose.Follows (steps ++ rest) := fun final =>
      absurd final (Step.not_atEnd_append midway steps)
    rw [List.cons_append, Nat.add_right_comm, walkFrom_follow short follows found, ← List.append_assoc,
      onward purpose extra rest midway]

/-- The names of a place lead from the root to what stands there, unless that is a link, and no link is followed on the
way. A slash may stand behind those of a directory. -/
theorem Route.of_names (grounded : tree.Grounded) (storable : tree.Storable)
    (standing : tree.lookup place = some entry) (solid : ∀ target, entry ≠ .link target) {slashed : Bool}
    (open_ : slashed = true → entry = .directory) (links : Nat) :
    ∃ spot, Route tree .opening links [] (place.map .enter ++ Step.ending slashed) spot ∧
      tree.settle spot = .ok place := by
  -- The root has no name to arrive at, and only a slash may be left.
  rcases place.eq_nil_or_concat with rfl | ⟨above, name, rfl⟩
  · refine ⟨.directory [], ?_, rfl⟩
    cases slashed
    · exact .stop
    · exact .slash .stop
  · rw [List.concat_eq_append] at standing ⊢
    have held := grounded.parent above name entry standing
    have short := storable.short _ _ standing name (by simp)
    -- All names but the last lead through directories.
    have entered : tree.walkFrom .opening links [] (above.map .enter ++ .enter name :: Step.ending slashed) =
        tree.walkFrom .opening links above (.enter name :: Step.ending slashed) :=
      walkFrom_names grounded storable held (Step.not_atEnd_enter name _)
    -- The last name arrives at the entry, which is no link that would be followed.
    have arrived : tree.walkFrom .opening links above (.enter name :: Step.ending slashed) =
        .ok (.named above name slashed) := by
      refine walkFrom_arrive short (by simp) fun _ target link => ?_
      exact solid target (Option.some.inj (standing.symm.trans link))
    refine ⟨.named above name slashed, .of_walkFrom ?_, ?_⟩
    · rw [List.map_append, List.map_singleton, List.append_assoc, List.singleton_append, entered, arrived]
    · simp only [settle, standing]
      split
      · cases ‹_›
      · rfl
      · -- A slash behind a name asks for a directory.
        cases slashed with
        | false => rfl
        | true => simp_all

/-- Where one route settles for a place, no other place is settled for. -/
theorem Route.settles_iff {place' : Location} (route : Route tree purpose links here steps spot)
    (settled : tree.settle spot = .ok place') :
    (∃ spot, Route tree purpose links here steps spot ∧ tree.settle spot = .ok place) ↔ place = place' := by
  constructor
  · rintro ⟨other, route', settled'⟩
    -- The same steps lead to the same end.
    obtain rfl := route.unique route'
    exact Except.ok.inj (settled'.symm.trans settled)
  · rintro rfl
    exact ⟨spot, route, settled⟩

/-- The path of a place leads there, unless a link stands there. -/
theorem Route.of_place (grounded : tree.Grounded) (storable : tree.Storable)
    (standing : tree.lookup place = some entry) (solid : ∀ target, entry ≠ .link target) (links : Nat) :
    ∃ spot, Route tree .opening links [] (Path.ofLocation place).steps spot ∧ tree.settle spot = .ok place := by
  -- The path of the root is a slash alone.
  by_cases root : place = []
  · subst root
    exact ⟨.directory [], .slash .stop, rfl⟩
  · obtain ⟨spot, route, settled⟩ :=
      @Route.of_names tree place entry grounded storable standing solid false (by simp) links
    rw [Step.ending, if_neg (by simp), List.append_nil, ← Path.steps_ofLocation (grounded.below standing) root] at route
    exact ⟨spot, route, settled⟩

end Routes

/-- An absolute path resolves to the place that a reader's route from the root settles for, if the system accepts the
path of that place. -/
theorem resolve_eq_ok : tree.resolve path = .ok place ↔
    0 ∉ path.bytes ∧ (∃ spot, Route tree .opening linkLimit [] path.steps spot ∧ tree.settle spot = .ok place) ∧
      (Path.ofLocation place).bytes.length < Path.lengthLimit := by
  unfold resolve
  constructor
  · -- Each of the four checks has been passed.
    intro resolved
    split at resolved
    · cases resolved
    · rename_i clean
      split at resolved
      · cases resolved
      · rename_i spot walked
        split at resolved
        · cases resolved
        · rename_i location settled
          split at resolved
          · cases resolved
          · rename_i short
            cases resolved
            exact ⟨by simpa using clean, ⟨spot, .of_walkFrom walked, settled⟩, Nat.not_le.mp short⟩
  · rintro ⟨clean, ⟨spot, route, settled⟩, short⟩
    rw [if_neg (by simpa using clean), route.walkFrom_eq]
    simp only [settled, if_neg (Nat.not_le.mpr short)]

end FileTree

end ImageHeader
