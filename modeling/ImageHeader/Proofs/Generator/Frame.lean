import ImageHeader.Proofs.FileTree.Spelling
import ImageHeader.Proofs.Generator.Success

/-! Frames: what a run changes in a tree without links, and what it leaves as it was. -/

namespace ImageHeader

open FileTree

namespace Generator

variable {generator : Generator} {input : Path} {host after : Host} {opening : Opening}
  {stage : Stage} {tree cleared : FileTree} {content : List UInt8} {executable : Bool}
  {error : GenerateError} {report : Report}

/-- In a tree without links a path names the very file that it leads to. -/
theorem end_eq_place (linkFree : stage.tree.LinkFree)
    (stored : Stored stage.tree stage.here stage.intermediate stage.end_ stage.place content executable) :
    stage.end_ = stage.place := by
  -- The only other case is that of a link.
  obtain same | ⟨target, link⟩ := stored.end_eq_or_link
  · exact same
  · exact absurd link (linkFree _ target)

/-- In a tree without links the dump is found again after room was made at another place. -/
theorem find_of_clears (linkFree : stage.tree.LinkFree)
    (stored : Stored stage.tree stage.here stage.intermediate stage.end_ stage.place content executable)
    (apart : stage.output.spelled stage.here ≠ stage.place)
    (clears : Clears stage.tree stage.here stage.output cleared) :
    cleared.find stage.here stage.intermediate = .ok stage.place := by
  obtain rfl | ⟨lost, entry, named, standing, solid, rfl⟩ := clears.eq_or_erase
  · exact stored.find_eq
  · -- What was removed was no directory and no link, so no walk went through it.
    have other : lost ≠ stage.place := eq_spelled_of_named? linkFree named ▸ apart
    have shut : stage.tree.Shut lost := linkFree.shut standing solid
    have still : (stage.tree.erase lost).lookup stage.place = some (.file content executable) :=
      (lookup_erase_of_ne (Ne.symm other)).trans stored.standing
    exact find_of_leads? (leads?_erase stored.leads shut) still

/-- Where an old header was removed, a new one can be made. -/
theorem create_of_removed (linkFree : stage.tree.LinkFree) {lost : Location} {entry : Entry}
    (lively : ∀ above name, lost = above ++ [name] → stage.tree.lookup above = some .directory)
    (named : stage.tree.named? stage.here stage.output = some lost)
    (standing : stage.tree.lookup lost = some entry) (solid : entry ≠ .directory) :
    (stage.tree.erase lost).create stage.here stage.output =
      .ok ((stage.tree.erase lost).set lost (.file [] false), lost) := by
  have shut : stage.tree.Shut lost := linkFree.shut standing solid
  have named' : (stage.tree.erase lost).named? stage.here stage.output = some lost := by
    rw [named?_erase shut, named]
  obtain ⟨above, name, rfl, _⟩ := named?_eq_some.mp named
  -- The directory that held the old header is still there.
  have holding : (stage.tree.erase (above ++ [name])).lookup above = some .directory :=
    (lookup_erase_of_ne (by simp)).trans (lively above name rfl)
  exact create_of_named? named' (lookup_erase_self (by simp)) holding

/-- A stage without links that ends in an error leaves its tree without the dump. -/
theorem Ends.erased (ends : Ends stage (.error error) tree) (linkFree : stage.tree.LinkFree)
    (lively : ∀ above name entry, stage.tree.lookup (above ++ [name]) = some entry →
      stage.tree.lookup above = some .directory)
    (stored : Stored stage.tree stage.here stage.intermediate stage.end_ stage.place content executable)
    (apart : stage.output.spelled stage.here ≠ stage.place) :
    tree = stage.tree.erase stage.place := by
  have same := end_eq_place linkFree stored
  cases ends with
  -- What could not be removed is still there.
  | refused cause other removing => rw [same]
  | lost cleared cause clears finding =>
    -- Without links the dump is never lost.
    rw [find_of_clears linkFree stored apart clears] at finding
    cases finding
  | blocked cleared cause clears finding making =>
    obtain rfl | ⟨lost, entry, named, standing, solid, rfl⟩ := clears.eq_or_erase
    · rw [same]
    · -- Room was made, so the new header cannot fail.
      have holds : ∀ above name, lost = above ++ [name] →
          stage.tree.lookup above = some .directory := by
        rintro above name rfl
        exact lively above name entry standing
      rw [create_of_removed linkFree holds named standing solid] at making
      cases making

/-- A stage without links that ends well leaves its tree without the dump, and with the header at the output path. -/
theorem Ends.swapped (ends : Ends stage (.ok report) tree) (linkFree : stage.tree.LinkFree)
    (stored : Stored stage.tree stage.here stage.intermediate stage.end_ stage.place content executable)
    (apart : stage.output.spelled stage.here ≠ stage.place) :
    tree = (stage.tree.erase stage.place).set (stage.output.spelled stage.here)
      (.file stage.header false) := by
  have same := end_eq_place linkFree stored
  cases ends with
  | done cleared spot clears finding making =>
    obtain ⟨named, _, _, _⟩ := clears.create_eq making
    obtain rfl : spot = stage.output.spelled stage.here := eq_spelled_of_named? linkFree named
    -- Whether an old header was removed before makes no difference once the new one is there.
    have put : cleared.set (stage.output.spelled stage.here) (.file stage.header false) =
        stage.tree.set (stage.output.spelled stage.here) (.file stage.header false) := by
      obtain rfl | ⟨lost, _, named', _, _, rfl⟩ := clears.eq_or_erase
      · rfl
      · obtain rfl := Option.some.inj (named.symm.trans named')
        exact set_erase _ _ _
    -- The two places differ, so it does not matter which is changed first.
    rw [put, same, erase_set_of_ne apart]

/-- Every entry of the tree that holds the dump stands in a directory. -/
theorem stored_lively (grounded : opening.host.tree.Grounded)
    (opened : generator.opening? input host = some opening) (regular : opening.Regular)
    (above : Location) (name : Name) (entry : Entry)
    (standing : opening.stored.lookup (above ++ [name]) = some entry) :
    opening.stored.lookup above = some .directory := by
  have shut := Opening.shut_place opened
  obtain ⟨_, _, _, _, _, _, _, created⟩ := opening?_eq_some opened
  refine shut.within_set_file.directory above ?_
  by_cases same : above ++ [name] = opening.place
  · -- The dump stands where a file could be made.
    obtain ⟨above', name', same', _, cases_⟩ := create_eq_ok created
    obtain ⟨rfl, _⟩ := List.append_inj' (same.trans same') rfl
    obtain ⟨_, holding, _⟩ | ⟨_, _, file, _⟩ | ⟨kind, device, _⟩ := cases_
    · exact holding
    · rw [← same] at file
      exact grounded.parent above name _ file
    · exact absurd device (regular kind)
  · refine grounded.parent above name entry ?_
    rwa [Opening.stored, lookup_set_of_ne same] at standing

/-- Once a run of a dumper that only reads has opened its file, all that it changes lies at the two places that
its paths spell. -/
theorem generate_at_places (linkFree : host.tree.LinkFree) (grounded : host.tree.Grounded)
    (reads : generator.dumper.ReadOnly)
    (plain : ∀ kind, host.target? generator.intermediatePath ≠ some (.special kind))
    (opened : generator.opening? input host = some opening) :
    ∃ output intermediate, host.lexicalLocation generator.outputPath = .ok output ∧
      host.lexicalLocation generator.intermediatePath = .ok intermediate ∧ output ≠ intermediate ∧
      ((∃ error, (generator.generate input host).1 = .error error ∧
          (generator.generate input host).2.tree = host.tree.erase intermediate) ∨
        ((generator.generate input host).1 = .ok (generator.report input opening.dump) ∧
          (generator.generate input host).2.tree = (host.tree.erase intermediate).set output
            (.file (generator.header input opening.dump) false))) := by
  obtain ⟨output, intermediate, made, spelled, spelled', apart, _, created⟩ :=
    opening?_eq_some opened
  -- The dumper left tree and working directory as they were.
  obtain ⟨sameTree, sameHere⟩ := Opening.untouched opened reads
  have regular : opening.Regular := by
    refine Opening.regular_of_target? opened ?_
    rw [Host.target?, Host.find, sameTree, sameHere]
    exact plain
  have stored := stage_stored opened
  have ends := (generate_ends opened regular).1
  -- The places that the paths spell are those at which the walks end.
  have here : output = generator.outputPath.spelled opening.host.workingDirectory := by
    rw [sameHere]
    exact Host.lexicalLocation_eq grounded spelled
  have there : intermediate = opening.place := by
    have walked := eq_spelled_of_create (sameTree ▸ linkFree) created
    rw [sameHere, ← Host.lexicalLocation_eq grounded spelled'] at walked
    exact walked.symm
  subst here there
  -- The stored dump brings no link into the tree.
  have linkFree' : opening.stored.LinkFree := by
    intro place target link
    have before := set_file_within.link place target link
    rw [sameTree] at before
    exact linkFree place target before
  have lively := stored_lively (sameTree ▸ grounded) opened regular
  have erased : opening.stored.erase opening.place = host.tree.erase opening.place := by
    rw [Opening.stored, erase_set, sameTree]
  refine ⟨_, _, spelled, spelled', apart, ?_⟩
  rcases ran : generator.generate input host with ⟨error | report, after⟩
  · rw [ran] at ends
    have left := ends.erased linkFree' lively stored apart
    exact .inl ⟨error, rfl, left.trans erased⟩
  · rw [ran] at ends
    have left := ends.swapped linkFree' stored apart
    have told := (ends.replaced stored).1
    refine .inr ⟨congrArg Except.ok told, ?_⟩
    rw [← erased]
    exact left

/-- In a tree without links a run that fails before its file is open changes nothing, one that fails later only
takes away what stood at the intermediate place, and one that succeeds also puts the header at the output place;
so no failure touches the old header. -/
theorem generate_frame {result : Except GenerateError Report} (linkFree : host.tree.LinkFree)
    (grounded : host.tree.Grounded) (reads : generator.dumper.ReadOnly)
    (plain : ∀ kind, host.target? generator.intermediatePath ≠ some (.special kind))
    (ran : generator.generate input host = (result, after)) :
    (generator.opening? input host = none →
        (∃ error, result = .error error) ∧ after.tree = host.tree) ∧
      (∀ opening, generator.opening? input host = some opening →
        ∃ output intermediate, host.lexicalLocation generator.outputPath = .ok output ∧
          host.lexicalLocation generator.intermediatePath = .ok intermediate ∧
          output ≠ intermediate ∧
          (∀ error, result = .error error → after.tree = host.tree.erase intermediate) ∧
          ∀ report, result = .ok report →
            after.tree = (host.tree.erase intermediate).set output
              (.file (generator.header input opening.dump) false)) ∧
      ∀ error output, result = .error error → host.lexicalLocation generator.outputPath = .ok output →
        after.tree.lookup output = host.tree.lookup output := by
  have early : generator.opening? input host = none →
      (∃ error, result = .error error) ∧ after.tree = host.tree := by
    intro unopened
    obtain ⟨error, after', failed, same⟩ := generate_of_not_opened unopened
    cases failed.symm.trans ran
    -- The dumper is the only part that has run, and it only reads.
    obtain same | same := same
    · exact ⟨⟨error, rfl⟩, same⟩
    · exact ⟨⟨error, rfl⟩, same.trans (reads host input).1⟩
  have late : ∀ opening, generator.opening? input host = some opening →
      ∃ output intermediate, host.lexicalLocation generator.outputPath = .ok output ∧
        host.lexicalLocation generator.intermediatePath = .ok intermediate ∧
        output ≠ intermediate ∧
        (∀ error, result = .error error → after.tree = host.tree.erase intermediate) ∧
        ∀ report, result = .ok report →
          after.tree = (host.tree.erase intermediate).set output
            (.file (generator.header input opening.dump) false) := by
    intro opening opened
    obtain ⟨output, intermediate, spelled, spelled', apart, failed | done⟩ :=
      generate_at_places linkFree grounded reads plain opened
    · obtain ⟨error, told, left⟩ := failed
      rw [ran] at told left
      refine ⟨output, intermediate, spelled, spelled', apart, fun _ _ => left, ?_⟩
      rintro report rfl
      cases told
    · rw [ran] at done
      refine ⟨output, intermediate, spelled, spelled', apart, ?_, fun _ _ => done.2⟩
      rintro error rfl
      cases done.1
  refine ⟨early, late, ?_⟩
  rintro error output rfl spelled
  cases opened : generator.opening? input host with
  | none => rw [(early opened).2]
  | some opening =>
    -- The place that is emptied is another one.
    obtain ⟨output', intermediate, spelled', _, apart, left, _⟩ := late opening opened
    obtain rfl : output = output' := Except.ok.inj (spelled.symm.trans spelled')
    rw [left error rfl, lookup_erase_of_ne apart]

/-- A host with nothing but an old header at the default path. -/
def staleHost : Host := ⟨⟨[(Config.output {} |>.lexicalLocation, .file [1] false)]⟩, [], [], []⟩

/-- An old header is replaced, and nothing else is left behind. -/
theorem generate_frame_stale :
    staleHost.tree.LinkFree ∧ staleHost.tree.Grounded ∧ threeLines.dumper.ReadOnly ∧
      (∀ kind, staleHost.target? threeLines.intermediatePath ≠ some (.special kind)) ∧
      ∃ output intermediate, staleHost.lexicalLocation threeLines.outputPath = .ok output ∧
        staleHost.lexicalLocation threeLines.intermediatePath = .ok intermediate ∧
        (threeLines.generate ⟨[0x61]⟩ staleHost).2.tree =
          (staleHost.tree.erase intermediate).set output
            (.file (threeLines.header ⟨[0x61]⟩ "x\n0x01\ny\n") false) := by
  -- The only entry is a file with a proper name, right below the root.
  have only : ∀ place entry, place ≠ [] → staleHost.tree.lookup place = some entry →
      place = Path.lexicalLocation (Config.output {}) ∧ entry = .file [1] false := by
    intro place entry below standing
    simpa [staleHost] using mem_entries_of_lookup below standing
  have linkFree : staleHost.tree.LinkFree := by
    intro place target link
    by_cases root : place = []
    · simp [root] at link
    · cases (only place _ root link).2
  have grounded : staleHost.tree.Grounded := by
    have shape : Path.lexicalLocation (Config.output {}) =
        [] ++ [Utf8.encode "mxbl_first_stage_image.h"] := by decide
    constructor <;> intro above name entry standing <;>
      obtain ⟨same, _⟩ := only _ entry (by simp) standing <;>
      obtain ⟨rfl, alike⟩ := List.append_inj' (same.trans shape) rfl
    · exact lookup_root _
    · cases alike
      exact ⟨by decide, by decide⟩
  have reads : threeLines.dumper.ReadOnly := fun _ _ => ⟨rfl, rfl⟩
  have plain : ∀ kind, staleHost.target? threeLines.intermediatePath ≠ some (.special kind) := by
    intro kind
    cases kind <;> decide
  have done : threeLines.generate ⟨[0x61]⟩ staleHost =
      (.ok (threeLines.report ⟨[0x61]⟩ "x\n0x01\ny\n"),
        (threeLines.generate ⟨[0x61]⟩ staleHost).2) := by
    rfl
  obtain ⟨_, late, _⟩ := generate_frame linkFree grounded reads plain done
  obtain ⟨place, opened⟩ :=
    exists_opening_of_ok (show threeLines.dumper.dump staleHost ⟨[0x61]⟩ = (_, _) from rfl) done
  obtain ⟨output, intermediate, spelled, spelled', _, _, left⟩ := late _ opened
  exact ⟨linkFree, grounded, reads, plain, output, intermediate, spelled, spelled', left _ rfl⟩

end Generator

end ImageHeader
