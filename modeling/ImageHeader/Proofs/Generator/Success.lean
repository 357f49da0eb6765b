import ImageHeader.Proofs.Generator.Ending

/-! Success: what stands at the two paths after a run that succeeds, and what its report says. -/

namespace ImageHeader

open FileTree

namespace Generator

variable {generator : Generator} {input : Path} {host between after : Host} {dump : String}
  {report : Report} {stage : Stage} {tree : FileTree}

/-- The report of a run tells the paths that it was given. -/
theorem report_paths_of_ok (done : generator.generate input host = (.ok report, after)) :
    report.input = input ∧ report.output = generator.outputPath := by
  obtain ⟨opening, opened⟩ := exists_opened_of_ok done
  rw [generate_of_opened opened, generateFrom] at done
  -- Only the last step of a run makes a report.
  split at done
  · cases done
  · split at done
    · cases done
    · rw [finish] at done
      dsimp only at done
      split at done
      · cases done
      · cases done
        exact ⟨rfl, rfl⟩

/-- A stage that ends well has its header at the output path, and nothing at the intermediate path. -/
theorem Ends.replaced {content : List UInt8} {executable : Bool}
    (ends : Ends stage (.ok report) tree)
    (stored : Stored stage.tree stage.here stage.intermediate stage.end_ stage.place content executable) :
    report = stage.report ∧
      (∃ spot, tree.named? stage.here stage.output = some spot ∧
        tree.lookup spot = some (.file stage.header false)) ∧
      ∀ place, tree.placeOf? stage.here stage.intermediate = some place → tree.lookup place = none := by
  cases ends with
  | done cleared spot clears finding making =>
    -- The header came to a free place, so it took nothing of what the dump is stored under.
    obtain ⟨_, named, free, _⟩ := clears.create_eq making
    obtain ⟨_, still⟩ := stored.of_clears clears finding
    have last := still.set_file free stage.header false
    have below : spot ≠ [] := ne_root_of_named? named
    have apart : spot ≠ stage.end_ := still.ne_of_free free
    refine ⟨rfl, ⟨spot, ?_, ?_⟩, fun place ended => ?_⟩
    · -- Removing what the dump was stored under is on no walk to the header.
      refine last.named?_erase ?_
      rw [named?_set_file (Shut.of_free free), named]
    · rw [lookup_erase_of_ne apart, lookup_set_self below]
    · exact lookup_of_placeOf?_erase last.named ended

/-- A run that succeeds has replaced what its output path named, and gives the report on its dump. -/
theorem replaced_of_generate_ok (dumped : generator.dumper.dump host input = (.ok dump, between))
    (plain : ∀ kind, between.target? generator.intermediatePath ≠ some (.special kind))
    (done : generator.generate input host = (.ok report, after)) :
    report = generator.report input dump ∧
      (∃ spot, after.tree.named? after.workingDirectory generator.outputPath = some spot ∧
        after.tree.lookup spot = some (.file (generator.header input dump) false)) ∧
      ∀ place, after.tree.placeOf? after.workingDirectory generator.intermediatePath = some place →
        after.tree.lookup place = none := by
  obtain ⟨place, opened⟩ := exists_opening_of_ok dumped done
  have regular := Opening.regular_of_target? opened plain
  obtain ⟨ends, here⟩ := generate_ends opened regular
  rw [done] at ends here
  -- What the stage says of its tree, the host says of its paths.
  have replaced := ends.replaced (stage_stored opened)
  rw [show after.workingDirectory = (generator.stage input ⟨dump, between, place⟩).here from here]
  exact replaced

/-- A host with a link at the path of the default header and a file behind it. -/
def linkedHost : Host :=
  ⟨⟨[(Config.output {} |>.lexicalLocation, .link ⟨[0x6F]⟩), ([[0x6F]], .file [1] false)]⟩, [], [], []⟩

/-- A generator with the default configuration and a dump of three lines. -/
def threeLines : Generator := { config := {}, dumper := .canned "x\n0x01\ny\n" }

end Generator

end ImageHeader
