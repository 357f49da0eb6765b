import ImageHeader.Proofs.FileTree.Route

/-! Changes of a tree: which routes survive when files come and go, and when a link goes. -/

namespace ImageHeader.FileTree

variable {tree other : FileTree} {purpose : Purpose} {links : Nat} {here place : Location}
  {steps rest : List Step} {spot : Spot}

/-- Every directory and every link of a tree stands in another one too. -/
structure Within (tree other : FileTree) : Prop where
  directory : ∀ place, tree.lookup place = some .directory → other.lookup place = some .directory
  link : ∀ place target,
    tree.lookup place = some (.link target) → other.lookup place = some (.link target)

/-- No walk goes on through a place: it holds no directory and no link. -/
structure Shut (tree : FileTree) (place : Location) : Prop where
  directory : tree.lookup place ≠ some .directory
  link : ∀ target, tree.lookup place ≠ some (.link target)

/-- A spot is no link in a tree, or it is one that is not followed. -/
def Rests (tree : FileTree) (purpose : Purpose) (spot : Spot) : Prop :=
  purpose ≠ .removing → ∀ parent name slashed target,
    spot = .named parent name slashed → tree.lookup (parent ++ [name]) ≠ some (.link target)

/-- A tree holds its own directories and links. -/
theorem Within.refl (tree : FileTree) : tree.Within tree := ⟨fun _ found => found, fun _ _ found => found⟩

/-- What stands in the smallest of three trees stands in the largest. -/
theorem Within.trans {last : FileTree} (first : tree.Within other) (second : other.Within last) :
    tree.Within last :=
  ⟨fun place found => second.directory place (first.directory place found),
    fun place target found => second.link place target (first.link place target found)⟩

/-- A place that is shut is not the root. -/
theorem Shut.ne_root (shut : tree.Shut place) : place ≠ [] := by
  rintro rfl
  exact shut.directory (lookup_root tree)

/-- A file shuts its place. -/
theorem Shut.of_file {content : List UInt8} {executable : Bool}
    (found : tree.lookup place = some (.file content executable)) : tree.Shut place := by
  constructor <;> simp [found]

/-- A free place is shut. -/
theorem Shut.of_free (free : tree.lookup place = none) : tree.Shut place := by
  constructor <;> simp [free]

/-- Erasing one place leaves what stands at another. -/
theorem lookup_erase_of_ne {at_ : Location} (apart : at_ ≠ place) :
    (tree.erase place).lookup at_ = tree.lookup at_ := by
  -- The root needs a case of its own, since it is a directory in every tree.
  rw [lookup_erase, if_neg apart]
  split
  · rename_i root
    rw [root, lookup_root]
  · rfl

/-- Putting an entry at one place leaves what stands at another. -/
theorem lookup_set_of_ne {at_ : Location} {entry : Entry} (apart : at_ ≠ place) :
    (tree.set place entry).lookup at_ = tree.lookup at_ := by
  -- Here as well the root is a directory before and after.
  rw [lookup_set, if_neg apart]
  split
  · rename_i root
    rw [root, lookup_root]
  · rfl

/-- Nothing stands below the root at an erased place. -/
theorem lookup_erase_self (below : place ≠ []) : (tree.erase place).lookup place = none := by
  rw [lookup_erase, if_neg below, if_pos rfl]

/-- What stands somewhere after a loss stood there before. -/
theorem lookup_of_lookup_erase {at_ : Location} {entry : Entry}
    (standing : (tree.erase place).lookup at_ = some entry) : tree.lookup at_ = some entry := by
  -- Nothing is left at the place itself, unless it is the root.
  rw [lookup_erase] at standing
  split at standing
  · rename_i root
    rw [root, lookup_root, standing]
  · split at standing
    · cases standing
    · exact standing

/-- What was put at a place below the root stands there. -/
theorem lookup_set_self {entry : Entry} (below : place ≠ []) :
    (tree.set place entry).lookup place = some entry := by
  rw [lookup_set, if_neg below, if_pos rfl]

/-- A tree stands within another one if each of its passages, directory or link, stands there too. -/
theorem Within.of_passages
    (kept : ∀ at_ entry, tree.lookup at_ = some entry →
      (entry = .directory ∨ ∃ target, entry = .link target) → other.lookup at_ = some entry) :
    tree.Within other :=
  ⟨fun at_ found => kept at_ _ found (.inl rfl), fun at_ target found => kept at_ _ found (.inr ⟨target, rfl⟩)⟩

/-- A passage stands at no place that is shut. -/
theorem Shut.ne_of_passage {at_ : Location} {entry : Entry} (shut : tree.Shut place)
    (found : tree.lookup at_ = some entry)
    (passage : entry = .directory ∨ ∃ target, entry = .link target) : at_ ≠ place := by
  rintro rfl
  -- A shut place holds neither of the two kinds of passage.
  rcases passage with rfl | ⟨target, rfl⟩
  · exact shut.directory found
  · exact shut.link target found

/-- Erasing brings nothing into a tree. -/
theorem erase_within : (tree.erase place).Within tree := by
  refine .of_passages fun at_ entry found _ => ?_
  by_cases same : at_ = place
  · -- At the place itself only the root is left.
    by_cases root : at_ = []
    · rwa [root, lookup_root] at found ⊢
    · rw [same, lookup_erase_self (same ▸ root)] at found
      cases found
  · rwa [lookup_erase_of_ne same] at found

/-- What no walk goes through in a tree, none goes through in a smaller one. -/
theorem Shut.of_within (within : tree.Within other) (shut : other.Shut place) : tree.Shut place :=
  ⟨fun found => shut.directory (within.directory place found),
    fun target found => shut.link target (within.link place target found)⟩

/-- Erasing what no walk goes through keeps every passage. -/
theorem Shut.within_erase (shut : tree.Shut place) : tree.Within (tree.erase place) := by
  refine .of_passages fun at_ entry found passage => ?_
  -- What is erased is no passage.
  rwa [lookup_erase_of_ne (shut.ne_of_passage found passage)]

/-- Putting a file somewhere brings no passage into a tree. -/
theorem set_file_within {content : List UInt8} {executable : Bool} :
    (tree.set place (.file content executable)).Within tree := by
  refine .of_passages fun at_ entry found passage => ?_
  by_cases same : at_ = place
  · by_cases root : at_ = []
    · rwa [root, lookup_root] at found ⊢
    · -- A file is neither a directory nor a link.
      rw [same, lookup_set_self (same ▸ root)] at found
      cases found
      rcases passage with file | ⟨_, file⟩ <;> cases file
  · rwa [lookup_set_of_ne same] at found

/-- Putting a file where no walk goes through keeps every passage. -/
theorem Shut.within_set_file {content : List UInt8} {executable : Bool} (shut : tree.Shut place) :
    tree.Within (tree.set place (.file content executable)) := by
  refine .of_passages fun at_ entry found passage => ?_
  -- The file takes the place of no passage.
  rwa [lookup_set_of_ne (shut.ne_of_passage found passage)]

/-- A spot that rests in a larger tree rests in a smaller one. -/
theorem Rests.of_within (within : tree.Within other) (rests : other.Rests purpose spot) :
    tree.Rests purpose spot :=
  fun following parent name slashed target same found =>
    rests following parent name slashed target same (within.link _ target found)

namespace Route

/-- The end of a route is no link that would have to be followed. -/
theorem rests (route : Route tree purpose links here steps spot) : tree.Rests purpose spot := by
  intro following parent name slashed target same
  -- Only an arrival ends at a name, and it admits no link there.
  induction route with
  | stop => cases same
  | arrive short open_ solid =>
    cases same
    exact solid following target
  | stay _ ih | slash _ ih | up _ ih | enter _ _ _ _ ih | follow _ _ _ _ ih => exact ih same

/-- A route leads to the same spot in a larger tree, unless that one has a link there. -/
theorem mono (within : tree.Within other) (route : Route tree purpose links here steps spot)
    (rests : other.Rests purpose spot) : Route other purpose links here steps spot := by
  -- Directories and links on the way stand in the larger tree too; only at the end can it have a link more.
  induction route with
  | stop => exact .stop
  | stay _ ih => exact .stay (ih rests)
  | slash _ ih => exact .slash (ih rests)
  | up _ ih => exact .up (ih rests)
  | arrive short open_ _ =>
    exact .arrive short open_ fun following target => rests following _ _ _ target rfl
  | enter short midway found _ ih =>
    exact .enter short midway (within.directory _ found) (ih rests)
  | follow short follows found _ ih => exact .follow short follows (within.link _ _ found) (ih rests)

/-- Two routes of the same steps end at the same spot. -/
theorem unique {spot' : Spot} (route : Route tree purpose links here steps spot)
    (route' : Route tree purpose links here steps spot') : spot = spot' := by
  -- Both routes are the way of one walk.
  have same := route.walkFrom_eq.symm.trans route'.walkFrom_eq
  exact Except.ok.inj same

/-- A route survives the loss of an entry, unless it follows the link that is lost. -/
theorem erase_or_follow (route : Route tree purpose links here steps spot)
    (plain : tree.lookup place ≠ some .directory) :
    Route (tree.erase place) purpose links here steps spot ∨
      ∃ parent name target left rest, place = parent ++ [name] ∧
        tree.lookup place = some (.link target) ∧ purpose.Follows rest ∧
        Route tree purpose left (target.origin parent) (target.steps ++ rest) spot := by
  -- The induction is on the route; only a link that is followed can be the lost one.
  induction route with
  | stop => exact .inl .stop
  | stay _ ih => exact ih.imp .stay id
  | slash _ ih => exact ih.imp .slash id
  | up _ ih => exact ih.imp .up id
  | arrive short open_ solid =>
    -- A link that is left in the smaller tree stood in the larger one.
    refine .inl (.arrive short open_ fun following target found => ?_)
    exact solid following target (erase_within.link _ _ found)
  | @enter links here name rest spot short midway found onward ih =>
    refine ih.imp (fun onward => ?_) id
    -- The lost entry was no directory, so not the one that is entered here.
    have apart : here ++ [name] ≠ place := by
      intro same
      exact plain (same ▸ found)
    exact .enter short midway ((lookup_erase_of_ne apart).trans found) onward
  | @follow links here name target rest spot short follows found onward ih =>
    by_cases same : here ++ [name] = place
    · -- This is the lost link, and what the route does behind it is all that is left.
      subst same
      exact .inr ⟨here, name, target, links, rest, rfl, found, follows, onward⟩
    · -- Another link still leads on.
      refine ih.imp (fun onward => ?_) id
      exact .follow short follows ((lookup_erase_of_ne same).trans found) onward

/-- Steps that lead to what no walk goes through lead nowhere when more than the end of a path follows. -/
theorem blocked {purpose' : Purpose} {links' : Nat} {parent : Location} {name : Name}
    {slashed : Bool} {spot' : Spot}
    (route : Route tree purpose links here steps (.named parent name slashed))
    (shut : tree.Shut (parent ++ [name])) (midway : ¬Step.AtEnd rest) :
    ¬Route tree purpose' links' here (steps ++ rest) spot' := by
  have inner := Step.not_atEnd_append midway
  -- Both routes take the same steps, until the second one must pass what stands at the end of the first.
  generalize reached : Spot.named parent name slashed = spot at route
  induction route generalizing links' with
  | stop => cases reached
  | stay _ ih =>
    intro second
    cases second with
    | stay onward => exact ih reached onward
  | slash _ ih =>
    intro second
    cases second with
    | slash onward => exact ih reached onward
  | up _ ih =>
    intro second
    cases second with
    | up onward => exact ih reached onward
  | @arrive _ _ _ slashed short open_ solid =>
    cases reached
    intro second
    -- The second route can neither end here, nor enter, nor follow.
    obtain ⟨-, ⟨_, same, _⟩ | ⟨_, found, _⟩ | ⟨target, _, _, _, found, _⟩⟩ :=
      walkFrom_enter_eq_ok second.walkFrom_eq
    · exact inner _ ⟨_, same⟩
    · exact shut.directory found
    · exact shut.link target found
  | @enter _ here entered before _ _ _ found _ ih =>
    intro second
    -- The first route entered a directory, so the second one enters it too.
    obtain ⟨-, ⟨_, same, _⟩ | ⟨_, _, onward⟩ | ⟨target, _, _, _, other, _⟩⟩ :=
      walkFrom_enter_eq_ok second.walkFrom_eq
    · exact inner _ ⟨_, same⟩
    · exact ih reached (.of_walkFrom onward)
    · rw [found] at other
      cases other
  | @follow _ here entered target before _ _ _ found _ ih =>
    intro second
    -- The first route followed a link, and the second one is sent on by the same link.
    obtain ⟨-, ⟨_, same, _⟩ | ⟨_, other, _⟩ | ⟨target', _, _, _, other, onward⟩⟩ :=
      walkFrom_enter_eq_ok second.walkFrom_eq
    · exact inner _ ⟨_, same⟩
    · rw [found] at other
      cases other
    · rw [found] at other
      cases other
      rw [List.append_eq, ← List.append_assoc] at onward
      exact ih reached (.of_walkFrom onward)

/-- Where links at the end are not followed, a route ends at the same spot or at the link that led on to it. -/
theorem unfollowed (route : Route tree purpose links here steps spot) :
    Route tree .removing links here steps spot ∨
      ∃ parent name slashed target left,
        Route tree .removing links here steps (.named parent name slashed) ∧
        tree.lookup (parent ++ [name]) = some (.link target) ∧
        purpose.Follows (Step.ending slashed) ∧
        Route tree purpose left (target.origin parent) (target.steps ++ Step.ending slashed) spot := by
  -- The induction is on the route; a link that is followed at its end is where the other walk stops.
  induction route with
  | stop => exact .inl .stop
  | stay _ ih =>
    obtain same | ⟨parent, name, slashed, target, left, ended, onward⟩ := ih
    · exact .inl (.stay same)
    · exact .inr ⟨parent, name, slashed, target, left, .stay ended, onward⟩
  | slash _ ih =>
    obtain same | ⟨parent, name, slashed, target, left, ended, onward⟩ := ih
    · exact .inl (.slash same)
    · exact .inr ⟨parent, name, slashed, target, left, .slash ended, onward⟩
  | up _ ih =>
    obtain same | ⟨parent, name, slashed, target, left, ended, onward⟩ := ih
    · exact .inl (.up same)
    · exact .inr ⟨parent, name, slashed, target, left, .up ended, onward⟩
  | arrive short _ _ => exact .inl (.arrive short (by simp) (by simp))
  | enter short midway found _ ih =>
    obtain same | ⟨parent, name, slashed, target, left, ended, onward⟩ := ih
    · exact .inl (.enter short midway found same)
    · exact .inr ⟨parent, name, slashed, target, left, .enter short midway found ended, onward⟩
  | @follow links here name target rest spot short follows found onward ih =>
    by_cases last : Step.AtEnd rest
    · -- The other walk stops at a link in the last place.
      obtain ⟨slashed, rfl⟩ := last
      exact .inr ⟨here, name, slashed, target, links, .arrive short (by simp) (by simp), found,
        follows, onward⟩
    · -- A link on the way is followed by both walks.
      have midway : Purpose.removing.Follows rest := fun final => absurd final last
      obtain same | ⟨parent, name', slashed, target', left, ended, onward'⟩ := ih
      · exact .inl (.follow short midway found same)
      · exact .inr ⟨parent, name', slashed, target', left, .follow short midway found ended, onward'⟩

/-- A route that ends at no link is taken for every purpose, but files are not made before a slash. -/
theorem of_removing (purpose : Purpose) {parent : Location} {name : Name} {slashed : Bool}
    (route : Route tree .removing links here steps (.named parent name slashed))
    (open_ : purpose = .creating → slashed = false)
    (solid : ∀ target, tree.lookup (parent ++ [name]) ≠ some (.link target)) :
    Route tree purpose links here steps (.named parent name slashed) := by
  -- On the way the two walks treat every name alike; at the end there is no link to follow.
  generalize reached : Spot.named parent name slashed = spot at route ⊢
  induction route with
  | stop => cases reached
  | stay _ ih => exact .stay (ih reached)
  | slash _ ih => exact .slash (ih reached)
  | up _ ih => exact .up (ih reached)
  | arrive short _ _ =>
    cases reached
    exact .arrive short open_ fun _ => solid
  | enter short midway found _ ih => exact .enter short midway found (ih reached)
  | follow short follows found _ ih =>
    -- One who removes follows no last link, so this one is on the way.
    refine .follow short (fun final => ?_) found (ih reached)
    obtain removing | ⟨removing, _⟩ := follows final <;> cases removing

/-- Files are not made before a slash. -/
theorem unslashed {parent : Location} {name : Name} {slashed : Bool}
    (route : Route tree .creating links here steps (.named parent name slashed)) :
    slashed = false := by
  -- The slash after a last name is refused where the route arrives.
  generalize reached : Spot.named parent name slashed = spot at route
  induction route with
  | stop => cases reached
  | arrive _ open_ _ =>
    cases reached
    exact open_ rfl
  | stay _ ih | slash _ ih | up _ ih | enter _ _ _ _ ih | follow _ _ _ _ ih => exact ih reached

/-- The route of one who makes a file is open to one who reads it. -/
theorem opening (route : Route tree .creating links here steps spot) :
    Route tree .opening links here steps spot := by
  -- A reader follows every link, so each step of the maker is open to one.
  induction route with
  | stop => exact .stop
  | stay _ ih => exact .stay ih
  | slash _ ih => exact .slash ih
  | up _ ih => exact .up ih
  | arrive short _ solid => exact .arrive short (by simp) fun _ => solid (by simp)
  | enter short midway found _ ih => exact .enter short midway found ih
  | follow short _ found _ ih => exact .follow short (fun _ => .inl rfl) found ih

end Route

end ImageHeader.FileTree
