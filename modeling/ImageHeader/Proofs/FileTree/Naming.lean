import ImageHeader.FileTree.Arrangement
import ImageHeader.Proofs.FileTree.Within

/-! Naming: the entry that a path names, and how finding, making and removing meet at it. -/

namespace ImageHeader.FileTree

variable {tree other made : FileTree} {purpose : Purpose} {here place lost : Location} {path : Path}
  {spot : Spot}

/-- The place of the entry that a path names, if no slash follows; a link there is the entry itself. -/
def named? (tree : FileTree) (here : Location) (path : Path) : Option Location :=
  match tree.walk .removing here path with
  | .ok (.named parent name false) => some (parent ++ [name])
  | _ => none

/-- The place that a path leads to with every link followed, if no slash follows. -/
def leads? (tree : FileTree) (here : Location) (path : Path) : Option Location :=
  match tree.walk .opening here path with
  | .ok (.named parent name false) => some (parent ++ [name])
  | _ => none

/-- A walk succeeds exactly when its path is admitted and its steps are a route. -/
theorem walk_eq_ok : tree.walk purpose here path = .ok spot ↔
    path.admitted = .ok () ∧
      Route tree purpose linkLimit (path.origin here) path.steps spot := by
  -- A path that is not admitted has no walk at all.
  unfold walk
  cases path.admitted with
  | error cause => simp
  | ok _ => simp [walkFrom_eq_ok]

/-- A path names a place exactly when the walk that follows no last link ends at it. -/
theorem named?_eq_some : tree.named? here path = some place ↔
    ∃ parent name, place = parent ++ [name] ∧
      tree.walk .removing here path = .ok (.named parent name false) := by
  unfold named?
  constructor
  · intro named
    -- Only an end at a name without a slash gives a place.
    split at named
    · rename_i parent name walked
      exact ⟨parent, name, (Option.some.inj named).symm, walked⟩
    · cases named
  · rintro ⟨parent, name, rfl, walked⟩
    rw [walked]

/-- A path leads to a place exactly when the walk that follows every link ends at it. -/
theorem leads?_eq_some : tree.leads? here path = some place ↔
    ∃ parent name, place = parent ++ [name] ∧
      tree.walk .opening here path = .ok (.named parent name false) := by
  unfold leads?
  constructor
  · intro leads
    -- As for a named place, a slash or a directory at the end gives none.
    split at leads
    · rename_i parent name walked
      exact ⟨parent, name, (Option.some.inj leads).symm, walked⟩
    · cases leads
  · rintro ⟨parent, name, rfl, walked⟩
    rw [walked]

/-- A place that a path names is the place of that path. -/
theorem placeOf?_of_named? (named : tree.named? here path = some place) :
    tree.placeOf? here path = some place := by
  obtain ⟨parent, name, rfl, walked⟩ := named?_eq_some.mp named
  rw [placeOf?, walked]

/-- No path names the root. -/
theorem ne_root_of_named? (named : tree.named? here path = some place) : place ≠ [] := by
  obtain ⟨parent, name, rfl, _⟩ := named?_eq_some.mp named
  simp

/-- A walk that follows no last link ends at the same spot in a larger tree. -/
theorem walk_removing_within (within : tree.Within other)
    (walked : tree.walk .removing here path = .ok spot) :
    other.walk .removing here path = .ok spot := by
  obtain ⟨admitted, route⟩ := walk_eq_ok.mp walked
  -- The larger tree may have a link at the end, since that is not followed.
  exact walk_eq_ok.mpr ⟨admitted, route.mono within (fun following => absurd rfl following)⟩

/-- A path names the same place in a larger tree. -/
theorem named?_within (within : tree.Within other) (named : tree.named? here path = some place) :
    other.named? here path = some place := by
  obtain ⟨parent, name, rfl, walked⟩ := named?_eq_some.mp named
  exact named?_eq_some.mpr ⟨parent, name, rfl, walk_removing_within within walked⟩

/-- A path names what it named before a file was put where no walk goes through. -/
theorem named?_set_file {content : List UInt8} {executable : Bool} (shut : tree.Shut lost) :
    (tree.set lost (.file content executable)).named? here path = tree.named? here path := by
  -- Either tree holds the directories and links of the other one.
  refine Option.ext fun place => ⟨fun named => ?_, fun named => ?_⟩
  · exact named?_within set_file_within named
  · exact named?_within shut.within_set_file named

/-- A path names what it named before something was erased that no walk goes through. -/
theorem named?_erase (shut : tree.Shut lost) :
    (tree.erase lost).named? here path = tree.named? here path := by
  -- Either tree holds the directories and links of the other one.
  refine Option.ext fun place => ⟨fun named => ?_, fun named => ?_⟩
  · exact named?_within erase_within named
  · exact named?_within shut.within_erase named

/-- A path finds what it leads to, if anything stands there. -/
theorem find_of_leads? {entry : Entry} (leads : tree.leads? here path = some place)
    (standing : tree.lookup place = some entry) : tree.find here path = .ok place := by
  obtain ⟨parent, name, rfl, walked⟩ := leads?_eq_some.mp leads
  rw [find, walked]
  -- A walk that ends without a slash settles for whatever stands there.
  simp only [settle, standing]
  cases entry <;> rfl

/-- A path leads to a file that it names. -/
theorem leads?_of_named? {content : List UInt8} {executable : Bool}
    (named : tree.named? here path = some place)
    (standing : tree.lookup place = some (.file content executable)) :
    tree.leads? here path = some place := by
  obtain ⟨parent, name, rfl, walked⟩ := named?_eq_some.mp named
  obtain ⟨admitted, route⟩ := walk_eq_ok.mp walked
  -- A file is no link, so one who follows links ends at it too.
  have opened := route.of_removing .opening (by simp) (Shut.of_file standing).link
  exact leads?_eq_some.mpr ⟨parent, name, rfl, walk_eq_ok.mpr ⟨admitted, opened⟩⟩

/-- A path leads where it led before something was erased that no walk goes through. -/
theorem leads?_erase (leads : tree.leads? here path = some place) (shut : tree.Shut lost) :
    (tree.erase lost).leads? here path = some place := by
  obtain ⟨parent, name, rfl, walked⟩ := leads?_eq_some.mp leads
  obtain ⟨admitted, route⟩ := walk_eq_ok.mp walked
  -- The end was no link before, and erasing puts none there.
  have kept := route.mono shut.within_erase (route.rests.of_within erase_within)
  exact leads?_eq_some.mpr ⟨parent, name, rfl, walk_eq_ok.mpr ⟨admitted, kept⟩⟩

/-- A path leads where it led before a file was put where no walk goes through. -/
theorem leads?_set_file {content : List UInt8} {executable : Bool}
    (leads : tree.leads? here path = some place) (shut : tree.Shut lost) :
    (tree.set lost (.file content executable)).leads? here path = some place := by
  obtain ⟨parent, name, rfl, walked⟩ := leads?_eq_some.mp leads
  obtain ⟨admitted, route⟩ := walk_eq_ok.mp walked
  -- The end was no link before, and a file is none.
  have kept : Route (tree.set lost (.file content executable)) .opening linkLimit (path.origin here)
      path.steps (.named parent name false) :=
    route.mono shut.within_set_file (route.rests.of_within set_file_within)
  exact leads?_eq_some.mpr ⟨parent, name, rfl, walk_eq_ok.mpr ⟨admitted, kept⟩⟩

/-- A path that still finds something after a loss leads there as before. -/
theorem leads?_of_find_erase {found' : Location} (leads : tree.leads? here path = some place)
    (found : (tree.erase lost).find here path = .ok found') :
    found' = place ∧ (tree.erase lost).leads? here path = some place ∧
      (tree.erase lost).lookup place = tree.lookup place := by
  -- What is found stands in the smaller tree, so it is not what was lost, and is no link in either tree.
  obtain ⟨parent, name, rfl, walked⟩ := leads?_eq_some.mp leads
  obtain ⟨admitted, route⟩ := walk_eq_ok.mp walked
  unfold find at found
  split at found
  · cases found
  · rename_i spot remaining
    have route' := (walk_eq_ok.mp remaining).2
    -- Nothing would be found at the end if it were the lost place.
    have kept : ∀ above last slashed, spot = .named above last slashed →
        (tree.erase lost).lookup (above ++ [last]) = tree.lookup (above ++ [last]) := by
      rintro above last slashed rfl
      have apart : above ++ [last] ≠ lost := by
        rintro rfl
        simp [settle, lookup_erase] at found
      exact lookup_erase_of_ne apart
    have rests : tree.Rests .opening spot := by
      intro following above last slashed target named
      rw [← kept above last slashed named]
      exact route'.rests following above last slashed target named
    -- So the walk in the larger tree ends there as well.
    have same := (route'.mono erase_within rests).unique route
    subst same
    refine ⟨?_, leads?_eq_some.mpr ⟨parent, name, rfl, remaining⟩, kept parent name false rfl⟩
    -- What is found is where that walk ends.
    simp only [settle] at found
    split at found
    · cases found
    · exact (Except.ok.inj found).symm
    · simpa using found.symm

/-- What stands at a place is met there. -/
theorem entryAt_of_lookup {entry : Entry} (standing : tree.lookup place = some entry) :
    tree.entryAt place = entry := by
  rw [entryAt, standing, Option.getD_some]

/-- A file that a path names is what is read at it. -/
theorem read_of_named? {content : List UInt8} {executable : Bool}
    (named : tree.named? here path = some place)
    (standing : tree.lookup place = some (.file content executable)) :
    tree.read here path = .ok content := by
  rw [read, find_of_leads? (leads?_of_named? named standing) standing]
  simp only [entryAt_of_lookup standing, Entry.content]

/-- Removing succeeds exactly on a named entry that is no directory, and takes that entry away. -/
theorem remove_eq_ok : tree.remove here path = .ok made ↔
    ∃ place entry, tree.named? here path = some place ∧ tree.lookup place = some entry ∧
      entry ≠ .directory ∧ made = tree.erase place := by
  -- Removing fails at a directory, at nothing, and where a slash follows; at all else it erases.
  constructor
  · intro removed
    unfold remove at removed
    split at removed
    · cases removed
    · cases removed
    · rename_i parent name slashed walked
      split at removed
      · cases removed
      · cases removed
      · -- Something stands there that can be removed, unless a slash asks for a directory.
        rename_i entry solid standing
        split at removed
        · cases removed
        · rename_i open_
          cases removed
          have unslashed : slashed = false := by simpa using open_
          subst unslashed
          exact ⟨_, entry, named?_eq_some.mpr ⟨parent, name, rfl, walked⟩, standing,
            fun directory => solid directory, rfl⟩
  · rintro ⟨place, entry, named, standing, solid, rfl⟩
    obtain ⟨parent, name, rfl, walked⟩ := named?_eq_some.mp named
    rw [remove, walked]
    -- Every entry but a directory is removed alike.
    cases entry with
    | directory => exact absurd rfl solid
    | _ => simp [standing]

/-- Where removing finds nothing, nothing stands at the named place. -/
theorem lookup_of_remove_notFound (missing : tree.remove here path = .error .notFound)
    (named : tree.named? here path = some place) : tree.lookup place = none := by
  -- Any entry there would be removed, or refused as a directory.
  cases standing : tree.lookup place with
  | none => rfl
  | some entry =>
    by_cases directory : entry = .directory
    · -- A directory is refused for being one.
      obtain ⟨parent, name, rfl, walked⟩ := named?_eq_some.mp named
      subst directory
      simp only [remove, walked, standing, Except.error.injEq] at missing
      exact absurd missing (by decide)
    · rw [remove_eq_ok.mpr ⟨place, entry, named, standing, directory, rfl⟩] at missing
      cases missing

/-- What making a file does: it ends at a place without a slash, where it makes or empties a file, or meets a device. -/
theorem create_eq_ok (created : tree.create here path = .ok (made, place)) :
    ∃ parent name, place = parent ++ [name] ∧
      tree.walk .creating here path = .ok (.named parent name false) ∧
      ((tree.lookup place = none ∧ tree.lookup parent = some .directory ∧
          made = tree.set place (.file [] false)) ∨
        (∃ content executable, tree.lookup place = some (.file content executable) ∧
          made = tree.set place (.file [] executable)) ∨
        ∃ kind, tree.lookup place = some (.special kind) ∧ made = tree) := by
  unfold create at created
  split at created
  · cases created
  · cases created
  · rename_i parent name slashed walked
    -- The end of a walk that makes files has no slash and is no link.
    obtain ⟨-, route⟩ := walk_eq_ok.mp walked
    obtain rfl := route.unslashed
    have solid : ∀ target, tree.lookup (parent ++ [name]) ≠ some (.link target) :=
      fun target => route.rests (by simp) _ _ _ target rfl
    cases standing : tree.lookup (parent ++ [name]) with
    | none =>
      -- A new file needs a directory that holds it.
      simp only [standing] at created
      split at created
      · rename_i lively
        cases created
        exact ⟨parent, name, rfl, walked, .inl ⟨standing, lively, rfl⟩⟩
      · cases created
    | some entry =>
      cases entry with
      | directory => simp [standing] at created
      | file content executable =>
        -- A file that is there is emptied.
        simp only [standing, Except.ok.injEq, Prod.mk.injEq] at created
        obtain ⟨rfl, rfl⟩ := created
        exact ⟨parent, name, rfl, walked, .inr (.inl ⟨content, executable, standing, rfl⟩)⟩
      | link target => exact absurd standing (solid target)
      | special kind =>
        -- A device stays what it is.
        simp only [standing, Except.ok.injEq, Prod.mk.injEq] at created
        obtain ⟨rfl, rfl⟩ := created
        exact ⟨parent, name, rfl, walked, .inr (.inr ⟨kind, standing, rfl⟩)⟩

/-- A file is made at the named place, or behind the link that stands there. -/
theorem named?_of_create (created : tree.create here path = .ok (made, place)) :
    ∃ end_, tree.named? here path = some end_ ∧
      (end_ = place ∨ ∃ target, tree.lookup end_ = some (.link target)) := by
  -- The walk that makes files ends where the walk that follows no last link ends, or behind that link.
  obtain ⟨parent, name, rfl, walked, _⟩ := create_eq_ok created
  obtain ⟨admitted, route⟩ := walk_eq_ok.mp walked
  obtain same | ⟨above, last, slashed, target, _, ended, found, follows, _⟩ := route.unfollowed
  · exact ⟨_, named?_eq_some.mpr ⟨parent, name, rfl, walk_eq_ok.mpr ⟨admitted, same⟩⟩, .inl rfl⟩
  · -- The maker was sent on by this link, so no slash followed it.
    have unslashed : slashed = false := by
      obtain opening | ⟨_, alone⟩ := follows ⟨slashed, rfl⟩
      · cases opening
      · cases slashed
        · rfl
        · cases alone
    subst unslashed
    exact ⟨_, named?_eq_some.mpr ⟨above, last, rfl, walk_eq_ok.mpr ⟨admitted, ended⟩⟩,
      .inr ⟨target, found⟩⟩

/-- A file is made at a named place that is free, if there is a directory to hold it. -/
theorem create_of_named? {parent : Location} {name : Name}
    (named : tree.named? here path = some (parent ++ [name]))
    (free : tree.lookup (parent ++ [name]) = none)
    (lively : tree.lookup parent = some .directory) :
    tree.create here path =
      .ok (tree.set (parent ++ [name]) (.file [] false), parent ++ [name]) := by
  -- No link stands at a free place, so the walk that follows links ends there as well.
  obtain ⟨_, _, same, walked⟩ := named?_eq_some.mp named
  obtain ⟨rfl, alike⟩ := List.append_inj' same rfl
  cases alike
  obtain ⟨admitted, route⟩ := walk_eq_ok.mp walked
  have opened := route.of_removing .creating (by simp) (Shut.of_free free).link
  rw [create, walk_eq_ok.mpr ⟨admitted, opened⟩]
  simp [free, lively]

/-- A path that a file can be made under leads to the place of that file. -/
theorem leads?_of_makeable (created : tree.create here path = .ok (made, place)) :
    tree.leads? here path = some place := by
  -- The route of a maker is one of a reader.
  obtain ⟨parent, name, rfl, walked, _⟩ := create_eq_ok created
  obtain ⟨admitted, route⟩ := walk_eq_ok.mp walked
  exact leads?_eq_some.mpr ⟨parent, name, rfl, walk_eq_ok.mpr ⟨admitted, route.opening⟩⟩

/-- A path under which a file was made leads to that file. -/
theorem leads?_of_create {content : List UInt8} {executable : Bool}
    (created : tree.create here path = .ok (made, place)) (shut : tree.Shut place) :
    (tree.set place (.file content executable)).leads? here path = some place :=
  -- The new file is in nobody's way.
  leads?_set_file (leads?_of_makeable created) shut

/-- No walk goes through a place where a file can be made. -/
theorem shut_of_create (created : tree.create here path = .ok (made, place)) : tree.Shut place := by
  obtain ⟨_, _, _, _, ⟨free, _⟩ | ⟨_, _, standing, _⟩ | ⟨kind, device, _⟩⟩ := create_eq_ok created
  · exact .of_free free
  · exact .of_file standing
  · -- A device is neither a directory nor a link.
    constructor <;> simp [device]

/-- A path names the place that it leads to, or the link that leads on to it. -/
theorem named?_of_leads? {end_ : Location} (named : tree.named? here path = some end_)
    (leads : tree.leads? here path = some place) :
    end_ = place ∨ ∃ target, tree.lookup end_ = some (.link target) := by
  -- Two walks that follow no last link end at one place.
  obtain ⟨parent, name, rfl, walked⟩ := named?_eq_some.mp named
  obtain ⟨above, last, rfl, opened⟩ := leads?_eq_some.mp leads
  obtain same | ⟨_, _, _, target, _, ending, link, _, _⟩ := (walk_eq_ok.mp opened).2.unfollowed
  · -- The walk that follows links met none at its end.
    have alike := same.unique (walk_eq_ok.mp walked).2
    cases alike
    exact .inl rfl
  · -- The walk that follows links was sent on by the one at which the other walk ends.
    have alike := ending.unique (walk_eq_ok.mp walked).2
    cases alike
    exact .inr ⟨target, link⟩

/-- A path that still leads somewhere after a loss names what it named before. -/
theorem named?_of_leads?_erase {end_ : Location} (named : tree.named? here path = some end_)
    (leads : (tree.erase lost).leads? here path = some place) :
    (tree.erase lost).named? here path = some end_ := by
  -- The smaller tree has a walk that follows no last link, and it is one of the larger tree too.
  obtain ⟨parent, name, rfl, walked⟩ := named?_eq_some.mp named
  obtain ⟨above, last, rfl, opened⟩ := leads?_eq_some.mp leads
  obtain ⟨admitted, route⟩ := walk_eq_ok.mp opened
  have remains : ∃ spot, (tree.erase lost).walk .removing here path = .ok spot := by
    obtain same | ⟨_, _, _, _, _, ending, _⟩ := route.unfollowed
    · exact ⟨_, walk_eq_ok.mpr ⟨admitted, same⟩⟩
    · exact ⟨_, walk_eq_ok.mpr ⟨admitted, ending⟩⟩
  obtain ⟨spot, remaining⟩ := remains
  -- So it ends where the walk of the larger tree ends.
  have same := (walk_removing_within erase_within remaining).symm.trans walked
  cases same
  exact named?_eq_some.mpr ⟨parent, name, rfl, remaining⟩

/-- The entry at which a path to a file ends is on the way of no other path. -/
theorem named?_erase_end {end_ : Location} {path' : Path} {place' : Location}
    (named : tree.named? here path = some end_) (leads : tree.leads? here path = some place)
    (shut : tree.Shut place) (named' : tree.named? here path' = some place') :
    (tree.erase end_).named? here path' = some place' := by
  obtain ⟨parent, name, rfl, walked⟩ := named?_eq_some.mp named
  obtain ⟨above, last, rfl, opened⟩ := leads?_eq_some.mp leads
  obtain ⟨above', last', rfl, walked'⟩ := named?_eq_some.mp named'
  have route := (walk_eq_ok.mp opened).2
  obtain ⟨admitted', route'⟩ := walk_eq_ok.mp walked'
  obtain same | ⟨parent, name, slashed, target, _, ending, link, _, behind⟩ := route.unfollowed
  · -- The path ends at the file itself, which no walk goes through.
    have alike := same.unique (walk_eq_ok.mp walked).2
    cases alike
    rw [named?_erase shut, named']
  · -- The path ends at a link to the file; another path through that link would go on below the file.
    have alike := ending.unique (walk_eq_ok.mp walked).2
    cases alike
    have plain : tree.lookup (parent ++ [name]) ≠ some .directory := by simp [link]
    obtain kept | ⟨parent', name', target', _, rest, same, link', follows, onward⟩ :=
      route'.erase_or_follow plain
    · exact named?_eq_some.mpr ⟨above', last', rfl, walk_eq_ok.mpr ⟨admitted', kept⟩⟩
    · -- The other path followed that same link.
      obtain ⟨rfl, alike⟩ := List.append_inj' same rfl
      cases alike
      rw [link] at link'
      cases link'
      -- It followed it on the way, since one who removes follows no last link.
      have midway : ¬Step.AtEnd rest := by
        intro final
        obtain removing | ⟨removing, _⟩ := follows final <;> cases removing
      -- Behind the link both take the same steps, up to the file.
      rw [Step.ending, if_neg (by simp), List.append_nil] at behind
      exact absurd onward (behind.blocked shut midway)

/-- Once the named entry is gone, nothing stands at the place of the path. -/
theorem lookup_of_placeOf?_erase {end_ : Location} (named : tree.named? here path = some end_)
    (ended : (tree.erase end_).placeOf? here path = some place) :
    (tree.erase end_).lookup place = none := by
  -- The walk in the smaller tree is one of the larger tree, so it ends at the named place or not at all.
  obtain ⟨parent, name, rfl, walked⟩ := named?_eq_some.mp named
  unfold placeOf? at ended
  split at ended
  · rename_i above last slashed remaining
    have same := (walk_removing_within erase_within remaining).symm.trans walked
    cases same
    cases ended
    exact lookup_erase_self (by simp)
  · -- A walk that ended at a name cannot end at a directory.
    rename_i directory remaining
    have same := (walk_removing_within erase_within remaining).symm.trans walked
    cases same
  · cases ended

end ImageHeader.FileTree
