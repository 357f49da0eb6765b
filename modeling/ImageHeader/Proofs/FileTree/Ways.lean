import ImageHeader.Proofs.FileTree.Showing

/-! Ways: trees with the same directories and links, in which every path goes the same way. -/

namespace ImageHeader.FileTree

variable {tree other : FileTree} {purpose : Purpose} {here place : Location} {path : Path} {spot : Spot}
  {content : List UInt8} {executable : Bool}

/-- The place at which a path ends with every link followed, whether anything stands there or not. -/
def site? (tree : FileTree) (here : Location) (path : Path) : Option Location :=
  match tree.walk .opening here path with
  | .ok spot => some spot.place
  | .error _ => none

/-- Two trees have the same directories and the same links. -/
structure SameWays (tree other : FileTree) : Prop where
  onto : tree.Within other
  back : other.Within tree

namespace SameWays

/-- Ways are the same in both directions. -/
theorem symm (same : tree.SameWays other) : other.SameWays tree := ⟨same.back, same.onto⟩

/-- Ways that are the same in two steps are the same. -/
theorem trans {last : FileTree} (first : tree.SameWays other) (second : other.SameWays last) :
    tree.SameWays last :=
  ⟨first.onto.trans second.onto, second.back.trans first.back⟩

/-- Erasing what no walk goes through leaves the ways as they are. -/
theorem erase (shut : tree.Shut place) : tree.SameWays (tree.erase place) :=
  ⟨shut.within_erase, erase_within⟩

/-- Putting a file where no walk goes through leaves the ways as they are. -/
theorem set_file (shut : tree.Shut place) : tree.SameWays (tree.set place (.file content executable)) :=
  ⟨shut.within_set_file, set_file_within⟩

/-- A directory of one tree is one of the other. -/
theorem directory_iff (same : tree.SameWays other) :
    tree.lookup place = some .directory ↔ other.lookup place = some .directory :=
  ⟨same.onto.directory place, same.back.directory place⟩

/-- What is shut in one tree is shut in the other. -/
theorem shut_iff (same : tree.SameWays other) : tree.Shut place ↔ other.Shut place :=
  ⟨Shut.of_within same.back, Shut.of_within same.onto⟩

/-- Where there are no links in one tree there are none in the other. -/
theorem linkFree (same : tree.SameWays other) (linkFree : tree.LinkFree) : other.LinkFree :=
  fun place target link => linkFree place target (same.back.link place target link)

/-- A walk that succeeds in one tree ends at the same spot in the other. -/
theorem walk_of_walk (same : tree.SameWays other) (walked : tree.walk purpose here path = .ok spot) :
    other.walk purpose here path = .ok spot := by
  obtain ⟨admitted, route⟩ := walk_eq_ok.mp walked
  -- A link at the end of the walk would be one of the first tree as well.
  exact walk_eq_ok.mpr ⟨admitted, route.mono same.onto (route.rests.of_within same.back)⟩

/-- A path names the same place in both trees. -/
theorem named?_eq (same : tree.SameWays other) : tree.named? here path = other.named? here path := by
  refine Option.ext fun place => ⟨fun named => ?_, fun named => ?_⟩
  · exact named?_within same.onto named
  · exact named?_within same.back named

/-- A path at whose end nothing has changed gives the same bytes to read, or none in either tree. -/
theorem read_eq (same : tree.SameWays other)
    (unchanged : ∀ place, tree.site? here path = some place → tree.lookup place = other.lookup place) :
    (tree.read here path).toOption = (other.read here path).toOption := by
  unfold read find
  cases walked : tree.walk .opening here path with
  | ok spot =>
    have kept : tree.lookup spot.place = other.lookup spot.place := by
      refine unchanged spot.place ?_
      rw [site?, walked]
    -- Both walks end at one spot, settle for one place, and find the same there.
    rw [same.walk_of_walk walked]
    simp only [settle_congr kept]
    cases settled : other.settle spot with
    | error cause => rfl
    | ok place =>
      rw [place_of_settle settled] at kept
      simp only [entryAt, kept]
  | error cause =>
    cases walked' : other.walk .opening here path with
    | error cause' => rfl
    | ok spot => cases walked.symm.trans (same.symm.walk_of_walk walked')

end SameWays

/-- A file can be put at the place that a path names: no walk goes through it, and there is a directory to hold it. -/
structure Fillable (tree : FileTree) (here : Location) (path : Path) (place : Location) : Prop where
  named : tree.named? here path = some place
  shut : tree.Shut place
  held : tree.lookup place.dropLast = some .directory

namespace Fillable

/-- Where a file can be put is a matter of the ways alone. -/
theorem of_sameWays (fillable : tree.Fillable here path place) (same : tree.SameWays other) :
    other.Fillable here path place where
  named := same.named?_eq.symm.trans fillable.named
  shut := same.shut_iff.mp fillable.shut
  held := same.directory_iff.mp fillable.held

/-- A walk for any purpose ends where a file can be put. -/
theorem walk_eq (fillable : tree.Fillable here path place) (purpose : Purpose) :
    ∃ parent name, place = parent ++ [name] ∧
      tree.walk purpose here path = .ok (.named parent name false) := by
  obtain ⟨parent, name, rfl, walked⟩ := named?_eq_some.mp fillable.named
  obtain ⟨admitted, route⟩ := walk_eq_ok.mp walked
  -- There is no link to be followed at the end.
  exact ⟨parent, name, rfl,
    walk_eq_ok.mpr ⟨admitted, route.of_removing purpose (fun _ => rfl) fillable.shut.link⟩⟩

/-- A path under which a file can be put ends at the place of that file. -/
theorem site?_eq (fillable : tree.Fillable here path place) : tree.site? here path = some place := by
  obtain ⟨parent, name, rfl, walked⟩ := fillable.walk_eq .opening
  rw [site?, walked]
  rfl

/-- A path under which a file can be put leads to the place of that file. -/
theorem leads?_eq (fillable : tree.Fillable here path place) : tree.leads? here path = some place := by
  obtain ⟨parent, name, rfl, walked⟩ := fillable.walk_eq .opening
  exact leads?_eq_some.mpr ⟨parent, name, rfl, walked⟩

/-- Where a file can be put, one can be made. -/
theorem create_eq (fillable : tree.Fillable here path place) :
    ∃ made, tree.create here path = .ok (made, place) := by
  obtain ⟨parent, name, rfl, walked⟩ := fillable.walk_eq .creating
  have held := fillable.held
  rw [List.dropLast_concat] at held
  unfold create
  simp only [walked]
  -- What stands there is emptied or left as it is; neither a directory nor a link is there.
  cases standing : tree.lookup (parent ++ [name]) with
  | none => exact ⟨_, if_pos held⟩
  | some entry =>
    cases entry with
    | directory => exact absurd standing fillable.shut.directory
    | link target => exact absurd standing (fillable.shut.link target)
    | file _ _ | special _ => exact ⟨_, rfl⟩

/-- What stands where a file can be put can be removed. -/
theorem remove_eq {entry : Entry} (fillable : tree.Fillable here path place)
    (standing : tree.lookup place = some entry) : tree.remove here path = .ok (tree.erase place) := by
  have solid : entry ≠ .directory := by
    rintro rfl
    exact fillable.shut.directory standing
  exact remove_eq_ok.mpr ⟨place, entry, fillable.named, standing, solid, rfl⟩

/-- Where a file can be put, room can be made for it, and this leaves the ways as they are. -/
theorem clears (fillable : tree.Fillable here path place) :
    ∃ cleared, Clears tree here path cleared ∧ tree.SameWays cleared := by
  cases standing : tree.lookup place with
  | none =>
    -- There is nothing to be removed.
    obtain ⟨parent, name, rfl, walked⟩ := fillable.walk_eq .removing
    have missing : tree.remove here path = .error .notFound := by
      rw [remove, walked]
      simp only [standing]
    exact ⟨tree, .missing missing, ⟨Within.refl tree, Within.refl tree⟩⟩
  | some entry => exact ⟨tree.erase place, .removed (fillable.remove_eq standing), .erase fillable.shut⟩

/-- Without links, a file can be put wherever one was made, if every entry stands in a directory. -/
theorem of_create {made : FileTree} (linkFree : tree.LinkFree) (grounded : tree.Grounded)
    (created : tree.create here path = .ok (made, place)) : tree.Fillable here path place := by
  obtain ⟨end_, named, same | ⟨target, link⟩⟩ := named?_of_create created
  · subst same
    refine ⟨named, shut_of_create created, ?_⟩
    obtain ⟨parent, name, rfl, _, cases_⟩ := create_eq_ok created
    rw [List.dropLast_concat]
    -- A new file needs a directory, and any other entry stands in one.
    obtain ⟨_, held, _⟩ | ⟨_, _, standing, _⟩ | ⟨_, standing, _⟩ := cases_
    · exact held
    · exact grounded.parent parent name _ standing
    · exact grounded.parent parent name _ standing
  · exact absurd link (linkFree end_ target)

/-- Without links, a file can be put where room was made and a new file took it. -/
theorem of_clears {cleared made : FileTree} (linkFree : tree.LinkFree)
    (clears : Clears tree here path cleared) (created : cleared.create here path = .ok (made, place)) :
    tree.Fillable here path place := by
  obtain ⟨named, _, free, _⟩ := clears.create_eq created
  -- What was removed from the place is no directory.
  have shut : tree.Shut place := by
    refine ⟨fun directory => ?_, linkFree place⟩
    obtain rfl | ⟨lost, entry, named', standing, solid, _⟩ := clears.eq_or_erase
    · cases free.symm.trans directory
    · obtain rfl := Option.some.inj (named.symm.trans named')
      exact solid (Option.some.inj (standing.symm.trans directory))
  refine ⟨named, shut, ?_⟩
  obtain ⟨parent, name, rfl, _, ⟨_, held, _⟩ | ⟨_, _, file, _⟩ | ⟨_, device, _⟩⟩ := create_eq_ok created
  · rw [List.dropLast_concat]
    exact clears.within.directory parent held
  · cases free.symm.trans file
  · cases free.symm.trans device

end Fillable

end ImageHeader.FileTree
