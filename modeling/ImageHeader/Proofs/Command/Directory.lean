import ImageHeader.Proofs.Command.Start
import ImageHeader.Proofs.FileTree.Resolving
import ImageHeader.Proofs.Text.Utf8

/-!
Directories: the absolute path under which a command looks for what it is to write.

A directory that can be resolved gets the path of its place, which is free of links and dots. Any other one keeps its
spelling below the working directory. In either case nothing is changed by making the result absolute once more.
-/

namespace ImageHeader

open FileTree (Grounded Route Storable find_eq_ok linkLimit resolve_eq_ok walkFrom_join_name walk_eq_ok)

namespace Path

variable {here place : Location} {path directory : Path} {name : Name}

/-- A path is followed at all if it has some bytes, but not too many, and none of them is zero. -/
theorem admitted_eq_ok : path.admitted = .ok () ↔
    0 ∉ path.bytes ∧ path.bytes ≠ [] ∧ path.bytes.length < lengthLimit := by
  unfold admitted
  -- The three conditions are asked for one after the other, and each has an error of its own.
  by_cases clean : 0 ∈ path.bytes
  · simp [clean]
  · by_cases filled : path.bytes = []
    · simp [isEmpty, filled]
    · by_cases short : lengthLimit ≤ path.bytes.length
      · simp [isEmpty, filled, clean, short, Nat.not_lt.mpr short]
      · simp [isEmpty, filled, clean, short, Nat.not_le.mp short]

/-- Slashes bring no zero byte to names. -/
theorem zero_notMem_names (clean : ∀ name ∈ place, 0 ∉ name) : 0 ∉ place.flatMap fun name => slash :: name := by
  intro zero
  obtain ⟨name, member, inside⟩ := List.mem_flatMap.mp zero
  -- Each byte is a slash or that of a name.
  rcases List.mem_cons.mp inside with same | inside
  · exact absurd same (by decide)
  · exact clean name member inside

/-- The path of a place has no zero byte if its names have none. -/
theorem zero_notMem_ofLocation (clean : ∀ name ∈ place, 0 ∉ name) : 0 ∉ (ofLocation place).bytes := by
  -- The path of the root is a slash alone.
  by_cases root : place = []
  · subst root
    decide
  · rw [bytes_ofLocation root]
    exact zero_notMem_names clean

/-- A path that is joined to that of a place has a zero byte only if it had one before. -/
theorem zero_mem_join (below : ∀ name ∈ here, Proper name) (clean : ∀ name ∈ here, 0 ∉ name) :
    0 ∈ ((ofLocation here).join path).bytes ↔ 0 ∈ path.bytes := by
  -- An absolute path takes the place of the directory; any other one stands behind its names and a slash.
  cases absolute : path.isAbsolute with
  | true => rw [join, if_pos absolute]
  | false =>
    rw [join_ofLocation below absolute, List.mem_append, List.mem_cons]
    constructor
    · rintro (zero | same | inside)
      · exact absurd zero (zero_notMem_names clean)
      · exact absurd same (by decide)
      · exact inside
    · exact fun inside => .inr (.inr inside)

/-- An absolute path is the same below every directory. -/
theorem join_of_isAbsolute (absolute : path.isAbsolute = true) : directory.join path = path :=
  if_pos absolute

/-- It is followed from the root. -/
theorem origin_of_isAbsolute (absolute : path.isAbsolute = true) : path.origin here = [] :=
  if_pos absolute

end Path

namespace Host

variable {host : Host} {path other : Path} {place : Location} {name : Name}

/-- A path resolves to a place: a reader who follows it from the working directory, and every link on the way, settles
for that place, and the system accepts the absolute path of the place. -/
structure Resolves (host : Host) (path : Path) (place : Location) : Prop where
  clean : 0 ∉ path.bytes
  reached : ∃ spot, Route host.tree .opening linkLimit (path.origin host.workingDirectory) path.steps spot ∧
    host.tree.settle spot = .ok place
  short : (Path.ofLocation place).bytes.length < Path.lengthLimit

/-- A path that the system follows resolves to what it finds, if the system accepts the path of that as well. -/
theorem resolves_iff_find (admitted : path.admitted = .ok ()) :
    host.Resolves path place ↔
      host.find path = .ok place ∧ (Path.ofLocation place).bytes.length < Path.lengthLimit := by
  -- Both take the same route; the path of the place is looked at apart.
  constructor
  · rintro ⟨_, ⟨spot, route, settled⟩, short⟩
    exact ⟨find_eq_ok.mpr ⟨spot, admitted, route, settled⟩, short⟩
  · rintro ⟨found, short⟩
    obtain ⟨spot, _, route, settled⟩ := find_eq_ok.mp found
    exact ⟨(Path.admitted_eq_ok.mp admitted).1, ⟨spot, route, settled⟩, short⟩

/-- A path stands for another one: both name the same entry, and whatever the other one leads to, for any purpose, this
one leads to as well. It may lead further, as the other one may follow more links. -/
structure StandsFor (host : Host) (path other : Path) : Prop where
  named : host.tree.named? host.workingDirectory path = host.tree.named? host.workingDirectory other
  leads : ∀ purpose spot, host.tree.walk purpose host.workingDirectory other = .ok spot →
    host.tree.walk purpose host.workingDirectory path = .ok spot

/-- An absolute path that the system follows is followed from the root. -/
theorem walk_of_isAbsolute (absolute : path.isAbsolute = true) (admitted : path.admitted = .ok ()) (purpose : Purpose) :
    host.tree.walk purpose host.workingDirectory path = host.tree.walkFrom purpose linkLimit [] path.steps := by
  rw [FileTree.walk, admitted, Path.origin_of_isAbsolute absolute]

/-- A path resolves to one place at most. -/
theorem Resolves.unique {place' : Location} (resolves : host.Resolves path place) (resolves' : host.Resolves path place') :
    place = place' := by
  -- A route from the same start with the same steps has one end.
  obtain ⟨spot, route, settled⟩ := resolves'.reached
  exact (route.settles_iff settled).mp resolves.reached

section Directory

variable (grounded : host.tree.Grounded) (standing : host.tree.lookup host.workingDirectory = some .directory)
include grounded standing

/-- What a path resolves to stands in the tree, and is no link. -/
theorem Resolves.exists_entry (resolves : host.Resolves path place) :
    ∃ entry, host.tree.lookup place = some entry ∧ ∀ target, entry ≠ .link target := by
  -- The route begins in a directory: the root, or the working directory.
  obtain ⟨spot, route, settled⟩ := resolves.reached
  exact route.exists_entry grounded (FileTree.lookup_origin standing path) settled

/-- No link stands on the way to what a path resolves to. -/
theorem Resolves.not_link (resolves : host.Resolves path place) {above : Location} (prefix_ : above <+: place)
    (target : Path) : host.tree.lookup above ≠ some (.link target) := by
  obtain ⟨entry, standing', solid⟩ := resolves.exists_entry grounded standing
  obtain ⟨below, rfl⟩ := prefix_
  intro link
  -- At the place itself stands no link, and above it stand directories alone.
  by_cases whole : below = []
  · rw [whole, List.append_nil, link] at standing'
    exact solid target (Option.some.inj standing').symm
  · cases link.symm.trans (grounded.directory_above whole standing')

variable (storable : host.tree.Storable)
include storable

/-- A path below the path of the working directory leads from the root to where it leads from the working directory. -/
theorem reached_join_iff :
    (∃ spot, Route host.tree .opening linkLimit []
        ((Path.ofLocation host.workingDirectory).join path).steps spot ∧ host.tree.settle spot = .ok place) ↔
      ∃ spot, Route host.tree .opening linkLimit (path.origin host.workingDirectory) path.steps spot ∧
        host.tree.settle spot = .ok place := by
  have below := grounded.below standing
  cases absolute : path.isAbsolute with
  | true => rw [Path.join_of_isAbsolute absolute, Path.origin_of_isAbsolute absolute]
  | false =>
    -- A relative path begins in the working directory, and its absolute spelling comes there by the names alone.
    have begun : path.origin host.workingDirectory = host.workingDirectory := by
      rw [Path.origin, absolute, if_neg (by simp)]
    rw [begun]
    obtain ⟨more, steps, kept⟩ := Path.exists_steps_join below absolute
    rw [steps]
    by_cases final : Step.AtEnd more ∧ Step.AtEnd path.steps
    · -- Nothing is left but the working directory itself.
      obtain ⟨⟨slashed, rfl⟩, ⟨slashed', ended⟩⟩ := final
      obtain ⟨spot, route, settled⟩ :=
        Route.of_names grounded storable standing (by simp) (fun _ : slashed = true => rfl) linkLimit
      have stays : Route host.tree .opening linkLimit host.workingDirectory path.steps
          (.directory host.workingDirectory) := by
        rw [ended]
        cases slashed'
        · exact .stop
        · exact .slash .stop
      rw [route.settles_iff settled, stays.settles_iff rfl]
    · -- Otherwise the steps of the path are still to be taken when the names have been entered.
      obtain rfl | both := kept
      · have midway : ¬Step.AtEnd path.steps := fun ended => final ⟨ended, ended⟩
        have onward : host.tree.walkFrom .opening linkLimit [] (host.workingDirectory.map .enter ++ path.steps) =
            host.tree.walkFrom .opening linkLimit host.workingDirectory path.steps :=
          FileTree.walkFrom_names grounded storable standing midway
        simp only [← FileTree.walkFrom_eq_ok, onward]
      · exact absurd both final

/-- What a path resolves to is what the system resolves its absolute spelling to. -/
theorem resolve_join_eq_ok :
    host.tree.resolve ((Path.ofLocation host.workingDirectory).join path) = .ok place ↔ host.Resolves path place := by
  -- The names of the working directory add no zero byte, and lead there.
  have zero := @Path.zero_mem_join _ path (grounded.below standing) (storable.clean _ _ standing)
  rw [resolve_eq_ok, reached_join_iff grounded standing storable, zero]
  exact ⟨fun ⟨clean, reached, short⟩ => ⟨clean, reached, short⟩, fun ⟨clean, reached, short⟩ => ⟨clean, reached, short⟩⟩

/-- The absolute spelling of a path resolves to what the path does. -/
theorem resolves_join_iff :
    host.Resolves ((Path.ofLocation host.workingDirectory).join path) place ↔ host.Resolves path place := by
  -- Both sides are what the same absolute path is resolved to.
  rw [← resolve_join_eq_ok grounded standing storable, ← resolve_join_eq_ok grounded standing storable,
    Path.join_of_isAbsolute (Path.isAbsolute_join (Path.isAbsolute_ofLocation host.workingDirectory))]

/-- A directory that resolves gets the path of its place. -/
theorem Resolves.absoluteDirectory_eq {directory : String} (resolves : host.Resolves (.ofText directory) place) :
    host.absoluteDirectory directory = .ok (Path.ofLocation place) := by
  -- The working directory is there, so that only resolving decides.
  have resolved := (resolve_join_eq_ok grounded standing storable).mpr resolves
  rw [absoluteDirectory, currentDirectory, if_pos standing]
  simp only [resolved]

/-- Any other directory keeps its spelling below the working directory. -/
theorem absoluteDirectory_of_unresolved {directory : String}
    (unresolved : ∀ place, ¬host.Resolves (.ofText directory) place) :
    host.absoluteDirectory directory = .ok ((Path.ofLocation host.workingDirectory).join (.ofText directory)) := by
  rw [absoluteDirectory, currentDirectory, if_pos standing]
  dsimp only
  -- The system would have resolved the absolute spelling to a place of the directory.
  split
  · rename_i place resolved
    exact absurd ((resolve_join_eq_ok grounded standing storable).mp resolved) (unresolved place)
  · rfl

/-- The path of what a path resolves to resolves to the same. -/
theorem Resolves.resolves_ofLocation (resolves : host.Resolves path place) :
    host.Resolves (Path.ofLocation place) place := by
  obtain ⟨entry, standing', solid⟩ := resolves.exists_entry grounded standing
  -- What stands at the place is no link, so that its names lead there.
  obtain ⟨spot, route, settled⟩ := Route.of_place grounded storable standing' solid linkLimit
  refine ⟨Path.zero_notMem_ofLocation (storable.clean _ _ standing'), ⟨spot, ?_, settled⟩, resolves.short⟩
  rwa [Path.origin_of_isAbsolute (Path.isAbsolute_ofLocation place)]

/-- The path of what a path resolves to finds it. -/
theorem Resolves.find_ofLocation (resolves : host.Resolves path place) :
    host.find (Path.ofLocation place) = .ok place := by
  have again := resolves.resolves_ofLocation grounded standing storable
  -- The path of a place has at least its first slash.
  have filled : (Path.ofLocation place).bytes ≠ [] := by cases place <;> simp [Path.ofLocation]
  exact ((resolves_iff_find (Path.admitted_eq_ok.mpr ⟨again.clean, filled, again.short⟩)).mp again).1

/-- A walk to a name that is joined to a path that resolves goes on from the place to which it resolves; it has all links
left if the path is that of the place itself. -/
theorem Resolves.exists_walk_join (resolves : host.Resolves path place) (proper : Path.Proper name)
    (admitted : ((Path.ofLocation place).join ⟨name⟩).admitted = .ok ())
    (admitted' : (((Path.ofLocation host.workingDirectory).join path).join ⟨name⟩).admitted = .ok ()) :
    ∃ left ≤ linkLimit, ∀ purpose,
      host.tree.walk purpose host.workingDirectory ((Path.ofLocation place).join ⟨name⟩) =
        (if host.tree.lookup place = some .directory then host.tree.walkFrom purpose linkLimit place [.enter name]
          else .error .notDirectory) ∧
      host.tree.walk purpose host.workingDirectory
          (((Path.ofLocation host.workingDirectory).join path).join ⟨name⟩) =
        if host.tree.lookup place = some .directory then host.tree.walkFrom purpose left place [.enter name]
          else .error .notDirectory := by
  obtain ⟨entry, standing', solid⟩ := resolves.exists_entry grounded standing
  obtain ⟨spot, route, settled⟩ := Route.of_place grounded storable standing' solid 0
  obtain ⟨spot', route', settled'⟩ := (reached_join_iff grounded standing storable).mpr resolves.reached
  -- Both routes start at the root and settle for the place; they differ in the links that they have used up.
  have root := FileTree.lookup_root host.tree
  have midway := Step.not_atEnd_enter name []
  obtain ⟨none, fewer, onward⟩ := route.exists_onward grounded root settled
  obtain ⟨left, fewer', onward'⟩ := route'.exists_onward grounded root settled'
  refine ⟨left, fewer', fun purpose => ⟨?_, ?_⟩⟩
  · have gone := onward purpose linkLimit [.enter name] midway
    -- The names alone follow no link.
    rw [Nat.le_zero.mp fewer, Nat.zero_add] at gone
    rw [walk_of_isAbsolute (Path.isAbsolute_join (Path.isAbsolute_ofLocation _)) admitted, walkFrom_join_name proper,
      gone]
  · have gone := onward' purpose 0 [.enter name] midway
    rw [Nat.add_zero, Nat.add_zero] at gone
    rw [walk_of_isAbsolute (Path.isAbsolute_join (Path.isAbsolute_join (Path.isAbsolute_ofLocation _))) admitted',
      walkFrom_join_name proper, gone]

/-- A name that is joined to the path of what a path resolves to stands for that name joined to the path itself. -/
theorem Resolves.standsFor (resolves : host.Resolves path place) (proper : Path.Proper name)
    (admitted : ((Path.ofLocation place).join ⟨name⟩).admitted = .ok ())
    (admitted' : (((Path.ofLocation host.workingDirectory).join path).join ⟨name⟩).admitted = .ok ()) :
    host.StandsFor ((Path.ofLocation place).join ⟨name⟩)
      (((Path.ofLocation host.workingDirectory).join path).join ⟨name⟩) := by
  obtain ⟨left, fewer, walks⟩ := resolves.exists_walk_join grounded standing storable proper admitted admitted'
  -- To name an entry needs no link at the end; to lead further, the names alone leave more of them.
  constructor
  · obtain ⟨walk, walk'⟩ := walks .removing
    rw [FileTree.named?, FileTree.named?, walk, walk', FileTree.walkFrom_removing_last linkLimit left]
  · intro purpose spot walked
    obtain ⟨walk, walk'⟩ := walks purpose
    rw [walk'] at walked
    rw [walk]
    split at walked
    · rename_i directory
      have route := (Route.of_walkFrom walked).more_links (linkLimit - left)
      rw [Nat.add_sub_cancel' fewer] at route
      rw [if_pos directory, route.walkFrom_eq]
    · cases walked

/-- In a directory such a name is that of an entry of the directory itself. -/
theorem Resolves.named?_join (resolves : host.Resolves path place) (proper : Path.Proper name)
    (short : name.length ≤ Path.nameLimit) (directory : host.tree.lookup place = some .directory)
    (admitted : ((Path.ofLocation place).join ⟨name⟩).admitted = .ok ())
    (admitted' : (((Path.ofLocation host.workingDirectory).join path).join ⟨name⟩).admitted = .ok ()) :
    host.tree.named? host.workingDirectory ((Path.ofLocation place).join ⟨name⟩) = some (place ++ [name]) := by
  obtain ⟨_, _, walks⟩ := resolves.exists_walk_join grounded standing storable proper admitted admitted'
  -- In the directory the walk has only this one name to go.
  have arrived : host.tree.walkFrom .removing linkLimit place [.enter name] = .ok (.named place name false) :=
    FileTree.walkFrom_arrive short (fun _ => rfl) (fun other => absurd rfl other)
  rw [FileTree.named?, (walks .removing).1, if_pos directory, arrived]

end Directory

/-- There is an absolute path for every directory, if the working directory is there. Making it absolute once more
changes nothing. If the directory resolves to a place, its absolute path has only names of which none is a link, and
finds what the directory finds; a name that is joined to it stands for that name joined to the directory, and is that of
an entry there. If the directory does not resolve, it is joined to the working directory as it is. -/
theorem absoluteDirectory_stable (host : Host) (grounded : host.tree.Grounded) (storable : host.tree.Storable)
    (standing : host.tree.lookup host.workingDirectory = some .directory) (directory : String) :
    ∃ absolute, host.absoluteDirectory directory = .ok absolute ∧ absolute.isAbsolute = true ∧
      (∀ text, absolute.text? = some text → host.absoluteDirectory text = .ok absolute) ∧
      (∀ place, host.Resolves (.ofText directory) place →
        absolute = Path.ofLocation place ∧ absolute.components = .root :: place.map .name ∧
          (∀ above, above <+: place → ∀ target, host.tree.lookup above ≠ some (.link target)) ∧
          host.find absolute = .ok place ∧
          ((Path.ofText directory).admitted = .ok () → host.find (.ofText directory) = .ok place) ∧
          ∀ name, Path.Proper name → (absolute.join ⟨name⟩).admitted = .ok () →
            (((Path.ofLocation host.workingDirectory).join (.ofText directory)).join ⟨name⟩).admitted = .ok () →
            host.StandsFor (absolute.join ⟨name⟩)
              (((Path.ofLocation host.workingDirectory).join (.ofText directory)).join ⟨name⟩) ∧
            (name.length ≤ Path.nameLimit → host.tree.lookup place = some .directory →
              host.tree.named? host.workingDirectory (absolute.join ⟨name⟩) = some (place ++ [name]))) ∧
      ((∀ place, ¬host.Resolves (.ofText directory) place) →
        absolute = (Path.ofLocation host.workingDirectory).join (.ofText directory)) := by
  -- A directory that resolves gets the path of its place, and any other one keeps its spelling.
  by_cases resolvable : ∃ place, host.Resolves (.ofText directory) place
  · obtain ⟨place, resolves⟩ := resolvable
    have found := resolves.absoluteDirectory_eq grounded standing storable
    refine ⟨_, found, Path.isAbsolute_ofLocation place, ?again, ?resolved, fun none => absurd resolves (none place)⟩
    case again =>
      intro text same
      have resolves' := resolves.resolves_ofLocation grounded standing storable
      -- The text is that path, which resolves to the same place again.
      rw [show Path.ofLocation place = .ofText text from congrArg Path.mk (Utf8.decode?_eq_some.mp same)] at resolves'
      exact resolves'.absoluteDirectory_eq grounded standing storable
    case resolved =>
      intro other resolves'
      -- There is only one place to which the directory resolves.
      obtain rfl := resolves.unique resolves'
      obtain ⟨_, standing', _⟩ := resolves.exists_entry grounded standing
      refine ⟨rfl, Path.components_ofLocation (grounded.below standing'), ?_,
        resolves.find_ofLocation grounded standing storable, ?_, ?_⟩
      · exact fun above prefix_ => resolves.not_link grounded standing prefix_
      · exact fun admitted => ((resolves_iff_find admitted).mp resolves).1
      · intro name proper admitted admitted'
        refine ⟨resolves.standsFor grounded standing storable proper admitted admitted', fun short directory => ?_⟩
        exact resolves.named?_join grounded standing storable proper short directory admitted admitted'
  · have unresolved : ∀ place, ¬host.Resolves (.ofText directory) place := fun place resolves =>
      resolvable ⟨place, resolves⟩
    have rooted : ((Path.ofLocation host.workingDirectory).join (.ofText directory)).isAbsolute = true :=
      Path.isAbsolute_join (Path.isAbsolute_ofLocation host.workingDirectory)
    refine ⟨_, absoluteDirectory_of_unresolved grounded standing storable unresolved, rooted, ?_,
      fun place resolves => absurd resolves (unresolved place), fun _ => rfl⟩
    intro text same
    have spelled : (Path.ofLocation host.workingDirectory).join (.ofText directory) = .ofText text :=
      congrArg Path.mk (Utf8.decode?_eq_some.mp same)
    -- The absolute spelling resolves no more than the directory does, and is its own absolute spelling.
    have again : ∀ place, ¬host.Resolves (.ofText text) place := by
      intro place resolves
      rw [← spelled, resolves_join_iff grounded standing storable] at resolves
      exact unresolved place resolves
    rw [absoluteDirectory_of_unresolved grounded standing storable again, ← spelled, Path.join_of_isAbsolute rooted]

/-- A host with links behind each other, and one to itself. -/
def linkedHost : Host :=
  ⟨⟨[([Utf8.encode "a"], .directory), ([Utf8.encode "a", Utf8.encode "b"], .directory),
    ([Utf8.encode "a", Utf8.encode "b", Utf8.encode "c"], .directory),
    ([Utf8.encode "l"], .link (.ofText "a/b")), ([Utf8.encode "m"], .link (.ofText "l/c")),
    ([Utf8.encode "o"], .link (.ofText "o"))]⟩, [Utf8.encode "a"], [], []⟩

/-- The step up is taken from where the links lead, and a link to itself keeps its spelling; both results stay. -/
theorem absoluteDirectory_stable_linked :
    linkedHost.absoluteDirectory "../m/./.." = .ok (.ofText "/a/b") ∧
      linkedHost.absoluteDirectory "/a/b" = .ok (.ofText "/a/b") ∧
      linkedHost.StandsFor (.ofText "/a/b/x") (.ofText "/a/../m/./../x") ∧
      linkedHost.absoluteDirectory "../o" = .ok (.ofText "/a/../o") ∧
      linkedHost.absoluteDirectory "/a/../o" = .ok (.ofText "/a/../o") := by
  have grounded : linkedHost.tree.Grounded := .of_entries (by decide)
  have storable : linkedHost.tree.Storable := .of_entries (by decide)
  have standing : linkedHost.tree.lookup linkedHost.workingDirectory = some .directory := by decide
  have resolves : linkedHost.Resolves (.ofText "../m/./..") [Utf8.encode "a", Utf8.encode "b"] :=
    (resolves_iff_find (by decide)).mpr ⟨by decide, by decide⟩
  -- The link to itself is followed until no link is left.
  have unresolved : ∀ place, ¬linkedHost.Resolves (.ofText "../o") place := by
    intro place resolves
    have lost : linkedHost.find (.ofText "../o") = .error .tooManyLinks := by decide
    cases lost.symm.trans ((resolves_iff_find (by decide)).mp resolves).1
  obtain ⟨_, found, _, again, resolved, _⟩ := absoluteDirectory_stable linkedHost grounded storable standing "../m/./.."
  obtain ⟨rfl, _, _, _, _, joined⟩ := resolved _ resolves
  obtain ⟨stands, _⟩ := joined (Utf8.encode "x") ⟨by decide, by decide⟩ (by decide) (by decide)
  obtain ⟨_, kept, _, again', _, spelled⟩ := absoluteDirectory_stable linkedHost grounded storable standing "../o"
  cases spelled unresolved
  exact ⟨found, again _ (by decide), stands, kept, again' _ (by decide)⟩

end Host

end ImageHeader
