import ImageHeader.Proofs.Generator.Collision
import ImageHeader.Proofs.Path.Respelling

/-!
Canonical forms: the place that a path spells is written down in one way, which all respellings of the path share.

What stands in the file tree plays no part, but for the working directory, from which a relative path is spelled. So a
generator whose output path is a respelling of its intermediate path does nothing, wherever its paths are placed.
-/

namespace ImageHeader

variable {host : Host} {here place : Location} {path directory : Path}

namespace Path

/-- The path of a place spells that place, from everywhere. -/
theorem spelled_ofLocation (below : ∀ name ∈ place, Proper name) (here : Location) :
    (ofLocation place).spelled here = place := by
  -- The path of the root has no names to follow, and so is written in another way.
  by_cases root : place = []
  · subst root
    simp [spelled_eq_led, ofLocation, origin, isAbsolute]
  · have named := foldl_move_proper below []
    rw [spelled, foldl_steps, pieces_ofLocation below root, origin, isAbsolute_ofLocation, if_pos rfl,
      List.filterMap_cons_none (by simp [step?]), named, List.nil_append]

/-- From the root the way up leads nowhere. -/
theorem spelled_up (root : path.spelled here = []) : spelled ⟨path.bytes ++ slash :: [dot, dot]⟩ here = [] := by
  -- The new path is followed as the old one was, and then one step up.
  obtain ⟨bytes⟩ := path
  rw [spelled_eq_led] at root ⊢
  by_cases none : bytes = []
  · -- Behind no bytes at all the slash is the one of the root.
    subst none
    rw [List.nil_append, led_slash, led_up, origin, isAbsolute, if_pos (by simp), List.dropLast_nil]
  · have same : origin ⟨bytes ++ slash :: [dot, dot]⟩ here = origin ⟨bytes⟩ here := by
      rw [origin, origin, isAbsolute_append none]
    rw [led_append_slash, same, root, led_up, List.dropLast_nil]

end Path

namespace Host

/-- The path of the working directory starts at the root. -/
theorem isAbsolute_of_current (current : host.currentDirectory = .ok directory) : directory.isAbsolute = true := by
  unfold currentDirectory at current
  split at current
  · cases current
    exact Path.isAbsolute_ofLocation _
  · cases current

/-- In a working directory every path is taken to spell what it spells from there. -/
theorem lexicalLocation_of_current (current : host.currentDirectory = .ok directory) (path : Path) :
    host.lexicalLocation path = .ok (path.spelled (directory.spelled [])) := by
  unfold lexicalLocation
  rw [current]
  -- An absolute path is the same from everywhere; a relative one is joined first.
  cases absolute : path.isAbsolute with
  | true =>
    have everywhere := Path.spelled_of_isAbsolute absolute (directory.spelled [])
    simp [Path.lexicalLocation, Path.foldl_follow_components, everywhere]
  | false => simp [Path.lexicalLocation, Path.foldl_follow_components, Path.spelled_join]

/-- A place as the canonical form of a path. -/
structure Canonical (host : Host) (directory path : Path) (place : Location) : Prop where
  /-- It is the place that the path spells. -/
  spelled : host.lexicalLocation path = .ok place
  /-- Its path starts at the root. -/
  absolute : (Path.ofLocation place).isAbsolute = true
  /-- Behind the root there are only names, and no dots. -/
  named : (Path.ofLocation place).components = .root :: place.map .name
  /-- Its path spells the place itself. -/
  settled : host.lexicalLocation (Path.ofLocation place) = .ok place
  /-- The paths that spell it are the path and its respellings. -/
  shared : ∀ other, host.lexicalLocation other = .ok place ↔ directory.AlikeFrom path other

/-- In a working directory every path has a canonical form. -/
theorem exists_canonical (current : host.currentDirectory = .ok directory) (path : Path) :
    ∃ place, host.Canonical directory path place := by
  have absolute := isAbsolute_of_current current
  -- Names that are reached along a path are neither empty nor dots, so they can be written down again.
  have below : ∀ name ∈ path.spelled (directory.spelled []), Path.Proper name :=
    Path.proper_of_mem_spelled fun _ => Path.proper_of_mem_spelled (by simp)
  refine ⟨path.spelled (directory.spelled []), lexicalLocation_of_current current path, Path.isAbsolute_ofLocation _,
    Path.components_ofLocation below, ?_, fun other => ?_⟩
  · rw [lexicalLocation_of_current current, Path.spelled_ofLocation below]
  · rw [lexicalLocation_of_current current, Path.alikeFrom_iff absolute, Except.ok.injEq, eq_comm]

end Host

namespace Generator

/-- Below the base directory a path spells what it spells from the place of that directory. -/
theorem spelled_resolve (generator : Generator) (path : Path) (here : Location) :
    (generator.resolve path).spelled here =
      path.spelled (generator.baseDirectory.elim here fun directory => directory.spelled here) := by
  unfold resolve
  -- Placing a path is following it from where the directory leads.
  cases generator.baseDirectory with
  | none => rfl
  | some directory =>
    rw [Option.elim_some, ← Path.spelled_join directory path here]
    dsimp only
    split
    · rename_i absolute
      simp [Path.join, absolute]
    · rfl

/-- In a working directory every path has a canonical form, which is absolute and without dots, its own canonical form,
and that of exactly those paths that are respellings of the path; and the way up from the root stays there. A generator
whose output path is a respelling of its intermediate path reports a collision, whatever its dumper and its image are,
and nothing else is done. It may be placed below any directory, unless a path was joined to the working directory. -/
theorem canonical_of_current (current : host.currentDirectory = .ok directory) (path : Path) :
    (∃ place, host.Canonical directory path place) ∧
    (host.lexicalLocation path = .ok [] →
      host.lexicalLocation ⟨path.bytes ++ [Path.slash, Path.dot, Path.dot]⟩ = .ok []) ∧
    ∀ generator : Generator, generator.config.intermediate = path →
      (path.Alike generator.config.output ∨
        generator.baseDirectory = none ∧ directory.AlikeFrom path generator.config.output) →
      ∃ refused, host.Canonical directory generator.intermediatePath refused ∧
        ∀ dumper input, ({ generator with dumper := dumper }).generate input host =
          (.error (.collision (Path.ofLocation refused)), host) := by
  have spelled := Host.lexicalLocation_of_current current
  refine ⟨Host.exists_canonical current path, fun root => ?_, ?_⟩
  · rw [spelled, Except.ok.injEq] at root ⊢
    exact Path.spelled_up root
  · rintro generator rfl respelled
    -- Respellings spell one place from any directory; those that are joined only from the one they were joined to.
    have same : generator.outputPath.spelled (directory.spelled []) =
        generator.intermediatePath.spelled (directory.spelled []) := by
      rw [outputPath, intermediatePath, spelled_resolve, spelled_resolve]
      obtain alike | ⟨unplaced, alike⟩ := respelled
      · exact (alike.spelled_eq _).symm
      · rw [unplaced]
        exact (alike.spelled_eq (Host.isAbsolute_of_current current)).symm
    obtain ⟨refused, canonical⟩ := Host.exists_canonical current generator.intermediatePath
    have output : host.lexicalLocation generator.outputPath = .ok refused := by
      rw [spelled, same, ← spelled, canonical.spelled]
    exact ⟨refused, canonical, fun dumper input => generate_of_same_place output canonical.spelled⟩

/-- A generator below a directory, whose output path is a respelling of its intermediate path. -/
def detouring : Generator :=
  { config := { output := .ofText "../x/../temp.h/", intermediate := .ofText "../temp.h" }
    dumper := .canned "x\n0x01\ny\n"
    baseDirectory := some (.ofText "../..") }

/-- A generator that is not placed, whose output path is its intermediate path joined to the working directory. -/
def joining : Generator :=
  { config := { output := .ofText "/a/temp.h", intermediate := .ofText "temp.h" }
    dumper := .canned "x\n0x01\ny\n" }

/-- The way up goes no further than the root, and both generators are refused. -/
theorem canonical_of_current_climbing :
    nestedHost.currentDirectory = .ok (.ofText "/a") ∧
      nestedHost.Canonical (.ofText "/a") (.ofText "../../..") [] ∧
      nestedHost.lexicalLocation (.ofText "../../../..") = .ok [] ∧
      (∀ dumper input, ({ detouring with dumper := dumper }).generate input nestedHost =
        (.error (.collision (.ofText "/temp.h")), nestedHost)) ∧
      ∀ dumper input, ({ joining with dumper := dumper }).generate input nestedHost =
        (.error (.collision (.ofText "/a/temp.h")), nestedHost) := by
  have current : nestedHost.currentDirectory = .ok (.ofText "/a") := by decide
  have root : nestedHost.lexicalLocation (.ofText "../../..") = .ok [] := by decide
  obtain ⟨⟨place, canonical⟩, up, _⟩ := canonical_of_current current (.ofText "../../..")
  obtain rfl : place = [] := Except.ok.inj (canonical.spelled.symm.trans root)
  -- A name and the way back from it are put behind the first slash, and another slash at the end.
  have proper : Path.Proper [0x78] := ⟨by decide, by decide⟩
  have detour : Path.Respells (.ofText "../temp.h") (.ofText "../x/../temp.h") :=
    (Path.Idle.back proper).respells [Path.dot, Path.dot] (Utf8.encode "temp.h")
  have closed : Path.Respells (.ofText "../x/../temp.h") (.ofText "../x/../temp.h/") := .trailing (by decide)
  have respelled : Path.Alike (.ofText "../temp.h") (.ofText "../x/../temp.h/") :=
    .trans (.rel _ _ detour) (.rel _ _ closed)
  obtain ⟨climbed, canonical', collides⟩ :=
    (canonical_of_current current (.ofText "../temp.h")).2.2 detouring rfl (.inl respelled)
  -- The canonical form is known from the evaluation, so the two places are one.
  have above : nestedHost.lexicalLocation detouring.intermediatePath = .ok [Utf8.encode "temp.h"] := by decide
  obtain rfl : climbed = [Utf8.encode "temp.h"] := Except.ok.inj (canonical'.spelled.symm.trans above)
  have joined : Path.AlikeFrom (.ofText "/a") (.ofText "temp.h") (.ofText "/a/temp.h") := .rel _ _ (.inr (by decide))
  obtain ⟨joint, canonical'', collides'⟩ :=
    (canonical_of_current current (.ofText "temp.h")).2.2 joining rfl (.inr ⟨rfl, joined⟩)
  have below : nestedHost.lexicalLocation joining.intermediatePath = .ok [Utf8.encode "a", Utf8.encode "temp.h"] := by
    decide
  obtain rfl : joint = [Utf8.encode "a", Utf8.encode "temp.h"] :=
    Except.ok.inj (canonical''.spelled.symm.trans below)
  exact ⟨current, canonical, up root, collides, collides'⟩

end Generator

end ImageHeader
