import ImageHeader.Proofs.FileTree.Clearing
import ImageHeader.Proofs.FileTree.Spelling

/-! Showing: the entry that a path leads to, and which changes of a tree leave it in view. -/

namespace ImageHeader.FileTree

variable {tree other : FileTree} {purpose : Purpose} {links : Nat} {here place place' : Location}
  {path path' : Path} {steps rest : List Step} {spot : Spot} {entry : Entry}

/-- A path leads to an entry, which stands at a place. -/
structure Shows (tree : FileTree) (here : Location) (path : Path) (place : Location) (entry : Entry) :
    Prop where
  found : tree.find here path = .ok place
  standing : tree.lookup place = some entry

/-- What is read at a path is the content of what it shows. -/
theorem Shows.read_eq (shows_ : tree.Shows here path place entry) :
    tree.read here path = entry.content := by
  rw [read, shows_.found]
  simp only [entryAt_of_lookup shows_.standing]

/-- A path at which bytes can be read shows what holds them. -/
theorem exists_shows_of_read {bytes : List UInt8} (read_ : tree.read here path = .ok bytes) :
    ∃ place entry, tree.Shows here path place entry ∧ entry.content = .ok bytes := by
  unfold read at read_
  split at read_
  · cases read_
  · rename_i place found
    cases standing : tree.lookup place with
    | some entry =>
      rw [entryAt_of_lookup standing] at read_
      exact ⟨place, entry, ⟨found, standing⟩, read_⟩
    | none =>
      -- A place without an entry was a directory, which cannot be read.
      rw [entryAt, standing] at read_
      cases read_

/-- A walk settles only for the place at which it ends. -/
theorem place_of_settle (settled : tree.settle spot = .ok place) : spot.place = place := by
  unfold settle at settled
  split at settled
  · exact Except.ok.inj settled
  · -- Whatever stands at a name, there is no other place to settle for.
    split at settled
    · cases settled
    · exact Except.ok.inj settled
    · split at settled
      · cases settled
      · exact Except.ok.inj settled

/-- A path finds nothing but what it leads to. -/
theorem eq_of_find {found : Location} (leads : tree.leads? here path = some place)
    (finds : tree.find here path = .ok found) : found = place := by
  obtain ⟨parent, name, rfl, walked⟩ := leads?_eq_some.mp leads
  rw [find, walked] at finds
  exact (place_of_settle finds).symm

/-- Where the same stands at its end, a walk settles alike in two trees. -/
theorem settle_congr (same : tree.lookup spot.place = other.lookup spot.place) :
    tree.settle spot = other.settle spot := by
  cases spot with
  | directory location => rfl
  | named parent name slashed =>
    rw [Spot.place] at same
    rw [settle, settle, same]

/-- A path finds a place exactly when a route that follows every link ends there and settles for it. -/
theorem find_eq_ok : tree.find here path = .ok place ↔
    ∃ spot, path.admitted = .ok () ∧
      Route tree .opening linkLimit (path.origin here) path.steps spot ∧ tree.settle spot = .ok place := by
  -- Finding is walking and then settling where the walk ends.
  unfold find
  constructor
  · intro found
    split at found
    · cases found
    · rename_i spot walked
      obtain ⟨admitted, route⟩ := walk_eq_ok.mp walked
      exact ⟨spot, admitted, route, found⟩
  · rintro ⟨spot, admitted, route, settled⟩
    rw [walk_eq_ok.mpr ⟨admitted, route⟩]
    exact settled

/-- The end of a route is no link in another tree in which the same stands there. -/
theorem Route.rests_of_same (route : Route tree purpose links here steps spot)
    (same : tree.lookup spot.place = other.lookup spot.place) : other.Rests purpose spot := by
  rintro following parent name slashed target rfl found
  exact route.rests following parent name slashed target rfl (same.trans found)

/-- A path that shows an entry shows it in every larger tree in which the entry still stands. -/
theorem Shows.within (shows_ : tree.Shows here path place entry) (within : tree.Within other)
    (standing : other.lookup place = some entry) : other.Shows here path place entry := by
  obtain ⟨spot, admitted, route, settled⟩ := find_eq_ok.mp shows_.found
  -- The end of the walk is the place of the entry, which is the same in both trees.
  have same : tree.lookup spot.place = other.lookup spot.place := by
    rw [place_of_settle settled, shows_.standing, standing]
  refine ⟨find_eq_ok.mpr ⟨spot, admitted, route.mono within (route.rests_of_same same), ?_⟩, standing⟩
  rw [← settle_congr same, settled]

/-- A path shows one entry only. -/
theorem Shows.unique {entry' : Entry} (shows_ : tree.Shows here path place entry)
    (shows' : tree.Shows here path place' entry') : place = place' ∧ entry = entry' := by
  obtain rfl := Except.ok.inj (shows_.found.symm.trans shows'.found)
  exact ⟨rfl, Option.some.inj (shows_.standing.symm.trans shows'.standing)⟩

/-- Steps that go on after they have led to what no walk goes through lead no further. -/
theorem Route.stopped {links' : Nat} {parent : Location} {name : Name} {slashed : Bool} {spot' : Spot}
    (route : Route tree purpose links here steps (.named parent name slashed))
    (shut : tree.Shut (parent ++ [name]))
    (route' : Route tree .opening links' here (steps ++ rest) spot') : spot'.place = parent ++ [name] := by
  -- Both routes take the same steps, until the second one comes to what stands at the end of the first.
  generalize reached : Spot.named parent name slashed = spot at route
  induction route generalizing links' with
  | stop => cases reached
  | stay _ ih =>
    cases route' with
    | stay onward => exact ih onward reached
  | slash _ ih =>
    cases route' with
    | slash onward => exact ih onward reached
  | up _ ih =>
    cases route' with
    | up onward => exact ih onward reached
  | arrive _ _ _ =>
    cases reached
    -- The second route can neither enter nor follow what stands here, so it ends here too.
    obtain ⟨-, ⟨_, _, rfl, _⟩ | ⟨_, found, _⟩ | ⟨target, _, _, _, found, _⟩⟩ :=
      walkFrom_enter_eq_ok route'.walkFrom_eq
    · rfl
    · exact absurd found shut.directory
    · exact absurd found (shut.link target)
  | @enter _ here entered before _ _ midway found _ ih =>
    -- The first route entered a directory that is not its end, so the second one enters it too.
    obtain ⟨-, ⟨flag, same, _⟩ | ⟨_, _, onward⟩ | ⟨target, _, _, _, other, _⟩⟩ :=
      walkFrom_enter_eq_ok route'.walkFrom_eq
    · have ended : Step.AtEnd (before ++ rest) := ⟨flag, same⟩
      exact absurd ended.of_append.1 midway
    · exact ih (.of_walkFrom onward) reached
    · cases found.symm.trans other
  | @follow _ here entered target before _ _ _ found _ ih =>
    -- The first route followed a link, and whoever opens a path is sent on by the same link.
    obtain ⟨-, ⟨_, _, _, _, solid⟩ | ⟨_, other, _⟩ | ⟨target', _, _, _, other, onward⟩⟩ :=
      walkFrom_enter_eq_ok route'.walkFrom_eq
    · exact absurd found (solid (by simp) target)
    · cases found.symm.trans other
    · cases found.symm.trans other
      rw [List.append_eq, ← List.append_assoc] at onward
      exact ih (.of_walkFrom onward) reached

/-- Sweeping away what a path to a shut place names leaves every other place in view; it is enough that the path led
there in a larger tree. -/
theorem Shows.swept (shows_ : tree.Shows here path place entry) (within : tree.Within other)
    (standing : other.lookup place = some entry) (solid : ∀ target, entry ≠ .link target)
    (leads : other.leads? here path' = some place') (shut : other.Shut place') (apart : place ≠ place') :
    (tree.swept here path').Shows here path place entry := by
  obtain same | ⟨end_, named, same⟩ := swept_eq tree here path'
  · rwa [same]
  · rw [same]
    -- What is swept away is the shut place itself or a link to it, and the place in view is neither.
    have elsewhere : place ≠ end_ := by
      rintro rfl
      obtain same | ⟨target, link⟩ := named?_of_leads? (named?_within within named) leads
      · exact apart same
      · exact solid target (Option.some.inj (standing.symm.trans link))
    have still : (tree.erase end_).lookup place = some entry :=
      (lookup_erase_of_ne elsewhere).trans shows_.standing
    obtain ⟨spot, admitted, route, settled⟩ := find_eq_ok.mp shows_.found
    have ended := place_of_settle settled
    obtain ⟨parent, name, rfl, walked⟩ := named?_eq_some.mp named
    obtain ⟨above, last, rfl, opened⟩ := leads?_eq_some.mp leads
    have ending := (walk_eq_ok.mp (walk_removing_within within walked)).2
    obtain alike | ⟨_, _, slashed, target, _, ending', link, _, behind⟩ :=
      (walk_eq_ok.mp opened).2.unfollowed
    · -- The path ends at the shut place, which no walk goes through.
      cases alike.unique ending
      exact shows_.within (shut.of_within within).within_erase still
    · -- The path ends at a link to it; a walk through that link ends at the shut place as well.
      cases ending'.unique ending
      have plain : tree.lookup (parent ++ [name]) ≠ some .directory := by
        intro found
        cases link.symm.trans (within.directory _ found)
      obtain kept | ⟨_, _, target', _, rest, at_, link', _, onward⟩ := route.erase_or_follow plain
      · have unchanged : tree.lookup spot.place = (tree.erase (parent ++ [name])).lookup spot.place := by
          rw [ended, shows_.standing, still]
        exact ⟨find_eq_ok.mpr ⟨spot, admitted, kept, (settle_congr unchanged).symm.trans settled⟩, still⟩
      · obtain ⟨rfl, alike⟩ := List.append_inj' at_ rfl
        cases alike
        cases link.symm.trans (within.link _ _ link')
        -- In the larger tree the walk goes on as in the smaller one.
        have same : tree.lookup spot.place = other.lookup spot.place := by
          rw [ended, shows_.standing, standing]
        have onward' := onward.mono within (onward.rests_of_same same)
        rw [Step.ending, if_neg (by simp), List.append_nil] at behind
        exact absurd (ended.symm.trans (behind.stopped shut onward')) apart

/-- After sweeping, any other place is in view alike, whether a file was put where no walk goes through or not. -/
theorem shows_swept_set {content : List UInt8} {executable : Bool} {at_ : Location} (shut : tree.Shut place)
    (apart : at_ ≠ place) :
    ((tree.set place (.file content executable)).swept here path).Shows here path' at_ entry ↔
      (tree.swept here path).Shows here path' at_ entry := by
  have alike : ((tree.set place (.file content executable)).swept here path).lookup at_ =
      (tree.swept here path).lookup at_ := lookup_swept_set shut apart
  -- Filling a file leaves all directories and links, so that the same walks lead on in both trees.
  obtain ⟨onto, back⟩ := @swept_set_within tree here place path content executable shut
  constructor
  · intro shows_
    exact shows_.within back (alike.symm.trans shows_.standing)
  · intro shows_
    exact shows_.within onto (alike.trans shows_.standing)

end ImageHeader.FileTree
