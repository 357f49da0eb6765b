import ImageHeader.Proofs.FileTree.Spelling
import ImageHeader.Proofs.Generator.Course

/-! Collisions: output and intermediate path are refused exactly when walks along them end at one place. -/

namespace ImageHeader

open FileTree

namespace FileTree

variable {tree : FileTree} {purpose : Purpose} {links : Nat} {here place : Location} {path : Path}
  {steps : List Step} {spot : Spot}

/-- Where steps lead that each set out from a directory; what stands at the end does not matter. -/
def tread? (tree : FileTree) (here : Location) : List Step → Option Location
  | [] => some here
  -- A dot or a slash goes nowhere, so nothing is asked of what it stands behind.
  | .stay :: rest | .slash :: rest => tree.tread? here rest
  | .up :: rest =>
    if tree.lookup here = some .directory then tree.tread? here.dropLast rest else none
  | .enter name :: rest =>
    if tree.lookup here = some .directory then tree.tread? (here ++ [name]) rest else none

/-- Where a path leads, component by component. -/
def reach? (tree : FileTree) (here : Location) (path : Path) : Option Location :=
  tree.tread? (path.origin here) path.steps

/-- Steps that can be trodden lead where they are spelled to lead. -/
theorem eq_of_tread? (trodden : tree.tread? here steps = some place) :
    place = steps.foldl Step.move here := by
  -- The induction is on the steps: each one moves alike in the tree and in the text.
  induction steps generalizing here with
  | nil => exact (Option.some.inj trodden).symm
  | cons step rest ih =>
    cases step with
    | stay => exact ih trodden
    | slash => exact ih trodden
    | up =>
      rw [tread?] at trodden
      split at trodden
      · exact ih trodden
      · cases trodden
    | enter name =>
      rw [tread?] at trodden
      split at trodden
      · exact ih trodden
      · cases trodden

/-- A path leads to no other place than the one it spells. -/
theorem eq_spelled_of_reach? (reached : tree.reach? here path = some place) :
    place = path.spelled here :=
  eq_of_tread? reached

/-- Where there are no links, the steps of every route can be trodden. -/
theorem Route.tread?_eq (linkFree : tree.LinkFree) (grounded : tree.Grounded)
    (route : Route tree purpose links here steps spot) (standing : tree.lookup here = some .directory) :
    tree.tread? here steps = some spot.place := by
  -- A route goes on from directories only, which is what treading asks for.
  induction route with
  | stop => rfl
  | stay _ ih | slash _ ih => exact ih standing
  | up _ ih =>
    rw [tread?, if_pos standing]
    exact ih (grounded.directory_dropLast standing)
  | @arrive _ here name slashed _ _ _ =>
    rw [tread?, if_pos standing]
    cases slashed <;> rfl
  | enter _ _ found _ ih =>
    rw [tread?, if_pos standing]
    exact ih found
  | follow _ _ found _ _ => exact absurd found (linkFree _ _)

/-- Where there are no links, a walk that succeeds ends at the place that its path reaches, whatever it is for. -/
theorem reach?_of_walk (linkFree : tree.LinkFree) (grounded : tree.Grounded)
    (standing : tree.lookup here = some .directory)
    (walked : tree.walk purpose here path = .ok spot) : tree.reach? here path = some spot.place := by
  have route := (walk_eq_ok.mp walked).2
  -- The walk sets out from the root or from the working directory, and both are directories.
  refine route.tread?_eq linkFree grounded ?_
  unfold Path.origin
  split
  · exact lookup_root tree
  · exact standing

end FileTree

/-- In a working directory that is there, every path spells a place. -/
theorem Host.lexicalLocation_eq_ok {host : Host} (grounded : host.tree.Grounded)
    (standing : host.tree.lookup host.workingDirectory = some .directory) (path : Path) :
    host.lexicalLocation path = .ok (path.spelled host.workingDirectory) := by
  -- Only a working directory that was deleted could be missed.
  have located : ∃ place, host.lexicalLocation path = .ok place := by
    unfold lexicalLocation currentDirectory
    rw [if_pos standing]
    split <;> exact ⟨_, rfl⟩
  obtain ⟨place, spelled⟩ := located
  rw [spelled, Host.lexicalLocation_eq grounded spelled]

namespace Generator

variable {generator : Generator} {input : Path} {host : Host} {place output intermediate : Location}

/-- Where both paths spell one place nothing is done, whatever the dumper is. -/
theorem generate_of_same_place (spelled : host.lexicalLocation generator.outputPath = .ok place)
    (spelled' : host.lexicalLocation generator.intermediatePath = .ok place) :
    generator.generate input host = (.error (.collision (Path.ofLocation place)), host) := by
  rw [generate, spelled, spelled']
  simp only [if_true]

/-- A collision is reported only where both paths spell one place. -/
theorem same_place_of_collision {path : Path}
    (refused : (generator.generate input host).1 = .error (.collision path)) :
    ∃ place, host.lexicalLocation generator.outputPath = .ok place ∧
      host.lexicalLocation generator.intermediatePath = .ok place := by
  cases opened : generator.opening? input host with
  | none =>
    obtain ⟨error, _, _, failed, _, _, _, told⟩ := generate_of_unopened opened
    rw [failed] at refused
    exact told path (Except.error.inj refused)
  | some opening =>
    -- What goes wrong from here on is told as an error of the system.
    obtain ⟨_, _, course, told, _⟩ := generate_course opened
    obtain ⟨_, _, other⟩ := course.error_of_verdict (told.symm.trans refused)
    cases other

/-- Output and intermediate path are refused exactly when walks along them end at one place; then neither the dumper
is asked nor anything else is done. -/
theorem collides_iff_same_place (grounded : host.tree.Grounded)
    (standing : host.tree.lookup host.workingDirectory = some .directory)
    (reached : host.tree.reach? host.workingDirectory generator.outputPath = some output)
    (reached' : host.tree.reach? host.workingDirectory generator.intermediatePath = some intermediate) :
    ((∃ path, (generator.generate input host).1 = .error (.collision path)) ↔ output = intermediate) ∧
      (output = intermediate → ∀ dumper, ({ generator with dumper := dumper }).generate input host =
        (.error (.collision (Path.ofLocation output)), host)) := by
  -- What a path spells is where the walk along it ends.
  have spelled := Host.lexicalLocation_eq_ok grounded standing generator.outputPath
  have spelled' := Host.lexicalLocation_eq_ok grounded standing generator.intermediatePath
  rw [← eq_spelled_of_reach? reached] at spelled
  rw [← eq_spelled_of_reach? reached'] at spelled'
  have refused : output = intermediate → ∀ dumper, ({ generator with dumper := dumper }).generate input host =
      (.error (.collision (Path.ofLocation output)), host) := by
    rintro rfl dumper
    -- The dumper has no part in what the two paths are.
    exact generate_of_same_place spelled spelled'
  refine ⟨⟨?_, fun same => ?_⟩, refused⟩
  · rintro ⟨path, collides⟩
    obtain ⟨place, at_, at_'⟩ := same_place_of_collision collides
    rw [spelled] at at_
    rw [spelled'] at at_'
    exact (Except.ok.inj at_).trans (Except.ok.inj at_').symm
  · exact ⟨_, congrArg Prod.fst (refused same generator.dumper)⟩

/-- A host with a directory in its working directory. -/
def nestedHost : Host :=
  ⟨⟨[([Utf8.encode "a"], .directory), ([Utf8.encode "a", Utf8.encode "b"], .directory)]⟩,
    [Utf8.encode "a"], [], []⟩

/-- A generator whose two paths are two spellings of one place. -/
def respelling : Generator :=
  { config := { output := .ofText "h.h", intermediate := .ofText "/a//./h.h" }
    dumper := .canned "x\n0x01\ny\n"
    baseDirectory := some (.ofText "b/..") }

/-- Both walks of the two spellings succeed and end at one place, so the paths are refused. -/
theorem collides_iff_same_place_respelled :
    nestedHost.tree.Grounded ∧ nestedHost.tree.lookup nestedHost.workingDirectory = some .directory ∧
      nestedHost.tree.reach? nestedHost.workingDirectory respelling.outputPath =
        some [Utf8.encode "a", Utf8.encode "h.h"] ∧
      nestedHost.tree.reach? nestedHost.workingDirectory respelling.intermediatePath =
        some [Utf8.encode "a", Utf8.encode "h.h"] ∧
      respelling.generate (.ofText "image.bin") nestedHost =
        (.error (.collision (.ofText "/a/h.h")), nestedHost) := by
  -- Both entries are directories with proper names, one in the other.
  have only : ∀ place entry, place ≠ [] → nestedHost.tree.lookup place = some entry →
      (place = [] ++ [Utf8.encode "a"] ∨ place = [Utf8.encode "a"] ++ [Utf8.encode "b"]) ∧
        entry = .directory := by
    intro place entry below standing
    simpa [nestedHost, ← or_and_right] using mem_entries_of_lookup below standing
  have linkFree : nestedHost.tree.LinkFree := by
    intro place target link
    by_cases root : place = []
    · simp [root] at link
    · cases (only place _ root link).2
  have grounded : nestedHost.tree.Grounded := by
    constructor <;> intro above name entry standing <;>
      obtain ⟨shape | shape, _⟩ := only _ entry (by simp) standing <;>
      obtain ⟨rfl, alike⟩ := List.append_inj' shape rfl <;> cases alike
    · exact lookup_root _
    · decide
    · exact ⟨by decide, by decide⟩
    · exact ⟨by decide, by decide⟩
  have standing : nestedHost.tree.lookup nestedHost.workingDirectory = some .directory := by decide
  -- The system itself would make a file at that place by either path.
  have reached := reach?_of_walk linkFree grounded standing
    (show nestedHost.tree.walk .creating nestedHost.workingDirectory respelling.outputPath =
      .ok (.named [Utf8.encode "a"] (Utf8.encode "h.h") false) by decide)
  have reached' := reach?_of_walk linkFree grounded standing
    (show nestedHost.tree.walk .creating nestedHost.workingDirectory respelling.intermediatePath =
      .ok (.named [Utf8.encode "a"] (Utf8.encode "h.h") false) by decide)
  obtain ⟨_, refused⟩ := @collides_iff_same_place respelling (.ofText "image.bin") nestedHost _ _
    grounded standing reached reached'
  exact ⟨grounded, standing, reached, reached', refused rfl respelling.dumper⟩

end Generator

end ImageHeader
