import ImageHeader.Proofs.FileTree.Naming

/-! Clearing: making room at one path, and what that leaves of a file that was stored under another one. -/

namespace ImageHeader.FileTree

variable {tree cleared made : FileTree} {here place : Location} {path kept : Path}
  {content : List UInt8} {executable : Bool}

/-- What becomes of a tree when a path is cleared: its entry is removed, or there was none. -/
inductive Clears (tree : FileTree) (here : Location) (path : Path) : FileTree → Prop
  | removed {cleared : FileTree} (gone : tree.remove here path = .ok cleared) : Clears tree here path cleared
  | missing (none : tree.remove here path = .error .notFound) : Clears tree here path tree

/-- The tree without what a path names, or as it is where that cannot be removed. -/
def swept (tree : FileTree) (here : Location) (path : Path) : FileTree :=
  match tree.remove here path with
  | .error _ => tree
  | .ok tree => tree

/-- Sweeping takes away a named entry that is no directory. -/
theorem swept_of_named? {entry : Entry} (named : tree.named? here path = some place)
    (standing : tree.lookup place = some entry) (solid : entry ≠ .directory) :
    tree.swept here path = tree.erase place := by
  rw [swept, remove_eq_ok.mpr ⟨place, entry, named, standing, solid, rfl⟩]

/-- Sweeping takes away at most the named entry. -/
theorem swept_eq (tree : FileTree) (here : Location) (path : Path) :
    tree.swept here path = tree ∨
      ∃ place, tree.named? here path = some place ∧ tree.swept here path = tree.erase place := by
  unfold swept
  -- What cannot be removed stays.
  cases removed : tree.remove here path with
  | error cause => exact .inl rfl
  | ok rest =>
    obtain ⟨place, _, named, _, _, rfl⟩ := remove_eq_ok.mp removed
    exact .inr ⟨place, named, rfl⟩

/-- Sweeping brings nothing into a tree. -/
theorem swept_within : (tree.swept here path).Within tree := by
  obtain same | ⟨_, _, same⟩ := swept_eq tree here path
  · rw [same]
    exact Within.refl tree
  · rw [same]
    exact erase_within

/-- Sweeping changes nothing but what is named. -/
theorem lookup_swept_of_ne {other : Location} (apart : tree.named? here path ≠ some other) :
    (tree.swept here path).lookup other = tree.lookup other := by
  obtain same | ⟨place, named, same⟩ := swept_eq tree here path
  · rw [same]
  · -- What was taken away was named, and this was not.
    have elsewhere : other ≠ place := by
      rintro rfl
      exact apart named
    rw [same, lookup_erase_of_ne elsewhere]

/-- After sweeping nothing stands at a named place but a directory. -/
theorem lookup_swept_of_named? (named : tree.named? here path = some place)
    (solid : tree.lookup place ≠ some .directory) : (tree.swept here path).lookup place = none := by
  -- A free place stays free, and an entry there can be removed.
  cases standing : tree.lookup place with
  | none =>
    obtain same | ⟨_, _, same⟩ := swept_eq tree here path
    · rw [same, standing]
    · simp [same, lookup_erase, ne_root_of_named? named, standing]
  | some entry =>
    have plain : entry ≠ .directory := by
      rintro rfl
      exact solid standing
    rw [swept_of_named? named standing plain]
    exact lookup_erase_self (ne_root_of_named? named)

/-- What stands somewhere after sweeping stood there before. -/
theorem lookup_of_lookup_swept {other : Location} {entry : Entry}
    (standing : (tree.swept here path).lookup other = some entry) : tree.lookup other = some entry := by
  obtain same | ⟨_, _, same⟩ := swept_eq tree here path
  · rwa [same] at standing
  · rw [same] at standing
    exact lookup_of_lookup_erase standing

/-- The last entry put at a place is the one that counts. -/
theorem set_set (tree : FileTree) (place : Location) (first second : Entry) :
    (tree.set place first).set place second = tree.set place second := by
  simp [set, erase, List.filter_filter]

/-- Nothing is left of an entry that was put at a place and erased. -/
theorem erase_set (tree : FileTree) (place : Location) (entry : Entry) :
    (tree.set place entry).erase place = tree.erase place := by
  simp [set, erase, List.filter_filter]

/-- An entry is put at a place alike whether it was erased before or not. -/
theorem set_erase (tree : FileTree) (place : Location) (entry : Entry) :
    (tree.erase place).set place entry = tree.set place entry := by
  simp [set, erase, List.filter_filter]

/-- Putting an entry at one place and erasing another one can change their order. -/
theorem erase_set_of_ne {other : Location} (apart : place ≠ other) (entry : Entry) :
    (tree.set place entry).erase other = (tree.erase other).set place entry := by
  simp [set, erase, List.filter_filter, apart, Bool.and_comm]

/-- Bytes written to a file replace its content. -/
theorem write_file (standing : tree.lookup place = some (.file content executable)) (bytes : List UInt8) :
    tree.write place bytes = .ok (tree.set place (.file bytes executable)) := by
  rw [write, standing]

/-- Whether the file at a place is executable, if there is one. -/
def executableAt (tree : FileTree) (place : Location) : Bool :=
  match tree.lookup place with
  | some (.file _ executable) => executable
  | _ => false

/-- Where no device is met, making a file makes an empty one where no walk goes through. -/
theorem set_of_create (created : tree.create here path = .ok (made, place))
    (regular : ∀ kind, tree.lookup place ≠ some (.special kind)) :
    tree.Shut place ∧ made = tree.set place (.file [] (tree.executableAt place)) := by
  refine ⟨shut_of_create created, ?_⟩
  obtain ⟨parent, name, rfl, _, ⟨free, _, rfl⟩ | ⟨_, executable, standing, rfl⟩ | ⟨kind, device, _⟩⟩ :=
    create_eq_ok created
  · -- A new file is made, and it is not executable.
    rw [executableAt, free]
  · -- A file that is there keeps its mode.
    rw [executableAt, standing]
  · exact absurd device (regular kind)

/-- Putting a file where no walk goes through and sweeping what another entry is named by can change their order. -/
theorem swept_set (shut : tree.Shut place) (apart : tree.named? here path ≠ some place) :
    (tree.set place (.file content executable)).swept here path =
      (tree.swept here path).set place (.file content executable) := by
  have named_ : (tree.set place (.file content executable)).named? here path =
      tree.named? here path := named?_set_file shut
  cases removing : tree.remove here path with
  | ok rest =>
    -- The same entry is removed from both trees, and it is not the file.
    obtain ⟨lost, entry, named, standing, solid, rfl⟩ := remove_eq_ok.mp removing
    have elsewhere : place ≠ lost := by
      rintro rfl
      exact apart named
    have standing' : (tree.set place (.file content executable)).lookup lost = some entry :=
      (lookup_set_of_ne (Ne.symm elsewhere)).trans standing
    rw [swept_of_named? (named_.trans named) standing' solid, swept_of_named? named standing solid,
      erase_set_of_ne elsewhere]
  | error cause =>
    -- Nothing is removed from either tree.
    have kept : tree.swept here path = tree := by rw [swept, removing]
    rw [kept]
    cases removing' : (tree.set place (.file content executable)).remove here path with
    | error cause => rw [swept, removing']
    -- What can be removed beside the file could be removed without it.
    | ok rest =>
      obtain ⟨lost, entry, named, standing, solid, rfl⟩ := remove_eq_ok.mp removing'
      rw [named_] at named
      have elsewhere : lost ≠ place := by
        rintro rfl
        exact apart named
      rw [lookup_set_of_ne elsewhere] at standing
      rw [remove_eq_ok.mpr ⟨lost, entry, named, standing, solid, rfl⟩] at removing
      cases removing

/-- A path names the same after another one was swept, whether a file stood where no walk goes through or not. -/
theorem named?_swept_set {other : Path} (shut : tree.Shut place)
    (apart : tree.named? here path ≠ some place) :
    ((tree.set place (.file content executable)).swept here path).named? here other =
      (tree.swept here path).named? here other := by
  -- What is shut stays so when something is lost.
  rw [swept_set shut apart, named?_set_file (shut.of_within swept_within)]

/-- Sweeping leaves the same directories and links, whether a file was put where no walk goes through or not. -/
theorem swept_set_within (shut : tree.Shut place) :
    (tree.swept here path).Within ((tree.set place (.file content executable)).swept here path) ∧
      ((tree.set place (.file content executable)).swept here path).Within (tree.swept here path) := by
  by_cases named : tree.named? here path = some place
  · -- The file itself is swept away, and it was nobody's way.
    have named_ : (tree.set place (.file content executable)).named? here path = some place :=
      (named?_set_file shut).trans named
    rw [swept_of_named? named_ (lookup_set_self shut.ne_root) (by simp), erase_set]
    refine ⟨swept_within.trans shut.within_erase, ?_⟩
    obtain same | ⟨lost, named', same⟩ := tree.swept_eq here path
    · rw [same]
      exact erase_within
    · cases named.symm.trans named'
      rw [same]
      exact Within.refl _
  · rw [swept_set shut named]
    exact ⟨(shut.of_within swept_within).within_set_file, set_file_within⟩

/-- Sweeping leaves the same everywhere else, whether a file was put where no walk goes through or not. -/
theorem lookup_swept_set {other : Location} (shut : tree.Shut place) (apart : other ≠ place) :
    ((tree.set place (.file content executable)).swept here path).lookup other =
      (tree.swept here path).lookup other := by
  by_cases named : tree.named? here path = some place
  · -- Only the place of the file is swept.
    have elsewhere : tree.named? here path ≠ some other := by
      intro named'
      exact apart (Option.some.inj (named'.symm.trans named))
    have elsewhere' : (tree.set place (.file content executable)).named? here path ≠ some other := by
      rwa [named?_set_file shut]
    rw [lookup_swept_of_ne elsewhere, lookup_swept_of_ne elsewhere', lookup_set_of_ne apart]
  · rw [swept_set shut named, lookup_set_of_ne apart]

namespace Clears

/-- Clearing takes away the named entry, or leaves the tree as it is. -/
theorem eq_or_erase (clears : Clears tree here path cleared) :
    cleared = tree ∨ ∃ lost entry, tree.named? here path = some lost ∧
      tree.lookup lost = some entry ∧ entry ≠ .directory ∧ cleared = tree.erase lost := by
  -- Removing says what it took away.
  cases clears with
  | removed gone => exact .inr (remove_eq_ok.mp gone)
  | missing none => exact .inl rfl

/-- Clearing brings nothing into a tree. -/
theorem within (clears : Clears tree here path cleared) : cleared.Within tree := by
  obtain rfl | ⟨_, _, _, _, _, rfl⟩ := clears.eq_or_erase
  · exact Within.refl cleared
  · exact erase_within

/-- A file that is made where a path was cleared is a new one at the named place. -/
theorem create_eq (clears : Clears tree here path cleared)
    (created : cleared.create here path = .ok (made, place)) :
    tree.named? here path = some place ∧ cleared.named? here path = some place ∧
      cleared.lookup place = none ∧ made = cleared.set place (.file [] false) := by
  -- What the path names after the clearing it named before, so nothing stands there any more.
  obtain ⟨end_, named, ended⟩ := named?_of_create created
  have before := named?_within clears.within named
  -- The named place is free, whether something was removed from it or nothing was there.
  have free : cleared.lookup end_ = none := by
    cases clears with
    | removed gone =>
      obtain ⟨lost, _, named', _, _, rfl⟩ := remove_eq_ok.mp gone
      cases before.symm.trans named'
      exact lookup_erase_self (ne_root_of_named? before)
    | missing none => exact lookup_of_remove_notFound none before
  -- At a free place the new file stands itself, and not behind a link.
  obtain rfl | ⟨target, link⟩ := ended
  · obtain ⟨parent, name, rfl, _, ⟨_, _, rfl⟩ | ⟨_, _, file, _⟩ | ⟨_, device, _⟩⟩ := create_eq_ok created
    · exact ⟨before, named, free, rfl⟩
    · rw [free] at file
      cases file
    · rw [free] at device
      cases device
  · rw [free] at link
    cases link

/-- A path that still finds something after another one was cleared leads there as before. -/
theorem leads?_of_find {found : Location} (clears : Clears tree here path cleared)
    (leads : tree.leads? here kept = some place) (finds : cleared.find here kept = .ok found)
    {entry : Entry} (standing : tree.lookup place = some entry) :
    found = place ∧ cleared.leads? here kept = some place ∧ cleared.lookup place = some entry := by
  obtain rfl | ⟨_, _, _, _, _, rfl⟩ := clears.eq_or_erase
  · -- Nothing was lost.
    rw [find_of_leads? leads standing] at finds
    exact ⟨(Except.ok.inj finds).symm, leads, standing⟩
  · -- What was lost was not on the way.
    obtain ⟨same, leads', still⟩ := leads?_of_find_erase leads finds
    exact ⟨same, leads', still.trans standing⟩

/-- A path that still leads somewhere after another one was cleared names what it named before. -/
theorem named?_of_leads? {end_ : Location} (clears : Clears tree here path cleared)
    (named : tree.named? here kept = some end_) (leads : cleared.leads? here kept = some place) :
    cleared.named? here kept = some end_ := by
  -- The only case to be shown is that of a loss.
  obtain rfl | ⟨_, _, _, _, _, rfl⟩ := clears.eq_or_erase
  · exact named
  · exact named?_of_leads?_erase named leads

/-- Where a path can be cleared, sweeping does the same. -/
theorem swept_eq (clears : Clears tree here path cleared) : tree.swept here path = cleared := by
  cases clears with
  | removed gone => rw [swept, gone]
  | missing none => rw [swept, none]

/-- A path whose entry stays is not cleared. -/
theorem not_of_refused {cause : IoError} (other : cause ≠ .notFound)
    (removing : tree.remove here path = .error cause) : ¬Clears tree here path cleared := by
  -- What removing does decides which of the two cases there can be.
  intro clears
  cases clears with
  | removed gone => cases removing.symm.trans gone
  | missing none =>
    cases removing.symm.trans none
    exact other rfl

/-- Clearing a path can end in one way only. -/
theorem unique {cleared' : FileTree} (clears : Clears tree here path cleared)
    (clears' : Clears tree here path cleared') : cleared = cleared' :=
  clears.swept_eq.symm.trans clears'.swept_eq

end Clears

/-- A path names an entry and leads to a file: the entry is that file or a link on the way to it. -/
structure Stored (tree : FileTree) (here : Location) (path : Path) (end_ place : Location)
    (content : List UInt8) (executable : Bool) : Prop where
  named : tree.named? here path = some end_
  leads : tree.leads? here path = some place
  standing : tree.lookup place = some (.file content executable)

namespace Stored

variable {end_ : Location}

/-- The named entry is the file itself or a link. -/
theorem end_eq_or_link (stored : Stored tree here path end_ place content executable) :
    end_ = place ∨ ∃ target, tree.lookup end_ = some (.link target) :=
  named?_of_leads? stored.named stored.leads

/-- Something stands at the named place, and it is no directory. -/
theorem exists_entry (stored : Stored tree here path end_ place content executable) :
    ∃ entry, tree.lookup end_ = some entry ∧ entry ≠ .directory := by
  -- Neither a file nor a link is a directory.
  obtain rfl | ⟨target, link⟩ := stored.end_eq_or_link
  · exact ⟨_, stored.standing, by simp⟩
  · exact ⟨_, link, by simp⟩

/-- A free place is another one than that of the named entry. -/
theorem ne_of_free {free : Location} (stored : Stored tree here path end_ place content executable)
    (none : tree.lookup free = none) : free ≠ end_ := by
  rintro rfl
  obtain ⟨entry, found, _⟩ := stored.exists_entry
  cases none.symm.trans found

/-- The named entry can be removed. -/
theorem remove_eq (stored : Stored tree here path end_ place content executable) :
    tree.remove here path = .ok (tree.erase end_) := by
  obtain ⟨entry, found, solid⟩ := stored.exists_entry
  exact remove_eq_ok.mpr ⟨end_, entry, stored.named, found, solid, rfl⟩

/-- Sweeping takes the named entry away. -/
theorem swept_eq (stored : Stored tree here path end_ place content executable) :
    tree.swept here path = tree.erase end_ := by
  rw [swept, stored.remove_eq]

/-- The file is found. -/
theorem find_eq (stored : Stored tree here path end_ place content executable) :
    tree.find here path = .ok place :=
  find_of_leads? stored.leads stored.standing

/-- What is made and filled at a path is stored there. -/
theorem of_create (created : tree.create here path = .ok (made, place)) (shut : tree.Shut place)
    (content : List UInt8) (executable : Bool) :
    ∃ end_, Stored (tree.set place (.file content executable)) here path end_ place content executable := by
  obtain ⟨end_, named, _⟩ := named?_of_create created
  -- The content of a file matters neither to what the path names nor to where it leads.
  refine ⟨end_, ?_, leads?_of_create created shut, ?_⟩
  · rw [named?_set_file shut, named]
  · exact lookup_set_self shut.ne_root

/-- A stored file stays stored when another path is cleared, if it is still found. -/
theorem of_clears (stored : Stored tree here kept end_ place content executable)
    (clears : Clears tree here path cleared) {found : Location}
    (finds : cleared.find here kept = .ok found) :
    found = place ∧ Stored cleared here kept end_ place content executable := by
  obtain ⟨same, leads, standing⟩ := clears.leads?_of_find stored.leads finds stored.standing
  exact ⟨same, clears.named?_of_leads? stored.named leads, leads, standing⟩

/-- A stored file stays stored when another file comes to a free place. -/
theorem set_file {free : Location} (stored : Stored tree here path end_ place content executable)
    (none : tree.lookup free = none) (other : List UInt8) (flag : Bool) :
    Stored (tree.set free (.file other flag)) here path end_ place content executable := by
  -- The file comes to another place than the stored one, and is on no walk.
  have shut : tree.Shut free := Shut.of_free none
  have apart : place ≠ free := by
    rintro rfl
    cases none.symm.trans stored.standing
  refine ⟨?_, leads?_set_file stored.leads shut, ?_⟩
  · rw [named?_set_file shut, stored.named]
  · exact (lookup_set_of_ne apart).trans stored.standing

/-- Removing what a stored file is named by leaves every other path what it names. -/
theorem named?_erase {other : Path} {place' : Location}
    (stored : Stored tree here path end_ place content executable)
    (named : tree.named? here other = some place') :
    (tree.erase end_).named? here other = some place' :=
  named?_erase_end stored.named stored.leads (Shut.of_file stored.standing) named

end Stored

end ImageHeader.FileTree
