import ImageHeader.Proofs.Generator.Image
import ImageHeader.Proofs.Generator.Ready

/-! Repetition: a run that succeeded can be made again, and makes no further difference. -/

namespace ImageHeader

open FileTree

namespace FileTree

variable {tree : FileTree} {intermediate output : Location} {header : List UInt8}

/-- Erasing a place once is enough. -/
theorem erase_erase (tree : FileTree) (place : Location) :
    (tree.erase place).erase place = tree.erase place := by
  simp [erase, List.filter_filter]

/-- Replacing the header by itself changes nothing. -/
theorem replaced_replaced (apart : output ≠ intermediate) :
    (tree.replaced intermediate output header).replaced intermediate output header =
      tree.replaced intermediate output header := by
  unfold replaced
  -- The intermediate place is free already, and the header is put over itself.
  rw [erase_set_of_ne apart, erase_erase, set_set]

end FileTree

/-- The dump of literals is settled by the path and the bytes of its input. -/
theorem Literals.determined (columns : Nat) : (Literals.dumper columns).Determined := by
  -- What is read decides the dump, and an image that cannot be read has none.
  refine ⟨fun path bytes => bytes.map (Literals.render columns path), fun host input => ?_⟩
  simp only [Literals.dumper]
  cases host.read input <;> rfl

namespace Generator

variable {generator : Generator} {input : Path} {host after : Host} {report : Report}
  {output intermediate : Location} {bytes : List UInt8}

/-- A run that succeeds has a dump. -/
theorem exists_dump_of_ok (done : generator.generate input host = (.ok report, after)) :
    ∃ dump, (generator.dumper.dump host input).1 = .ok dump := by
  -- A run without a dump is over before anything is opened.
  obtain ⟨opening, opened⟩ := exists_opened_of_ok done
  obtain ⟨_, _, _, _, _, _, dumped, _⟩ := opening?_eq_some opened
  exact ⟨opening.dump, by rw [dumped]⟩

/-- A run whose dump is settled by path and bytes of its image can be made again after it has succeeded: in a tree
without links, if its dumper only reads and the image is at none of the two places of the run, it gives the same report
and the tree stays as it is. And on every other host that holds the same image a run that succeeds gives the same report
and the same header, whatever stood at the two places before, unless a dump goes to a device. -/
theorem generate_again (linkFree : host.tree.LinkFree) (grounded : host.tree.Grounded)
    (determined : generator.dumper.Determined)
    (beside : host.site? input ≠ host.site? generator.outputPath)
    (beside' : host.site? input ≠ host.site? generator.intermediatePath)
    (done : generator.generate input host = (.ok report, after)) :
    (generator.dumper.ReadOnly →
      (∀ kind, host.target? generator.intermediatePath ≠ some (.special kind)) →
      ∃ last, generator.generate input after = (.ok report, last) ∧ last.tree = after.tree) ∧
    ∀ other report' last, (other.read input).toOption = (host.read input).toOption →
      (∀ kind, (generator.dumper.dump host input).2.target? generator.intermediatePath ≠
        some (.special kind)) →
      (∀ kind, (generator.dumper.dump other input).2.target? generator.intermediatePath ≠
        some (.special kind)) →
      generator.generate input other = (.ok report', last) →
      report' = report ∧ ∃ header,
        after.entryAt? generator.outputPath = some (.file header false) ∧
          last.entryAt? generator.outputPath = some (.file header false) := by
  refine ⟨fun reads plain => ?_, fun other report' last same plain plain' done' => ?_⟩
  · -- The first run shows that its paths lead to two places that can be written.
    obtain ⟨output, intermediate, dump, ready⟩ := ready_of_ok linkFree grounded reads done
    obtain ⟨_, once, left, here⟩ := generate_of_ready reads ready
    obtain ⟨told, rfl⟩ := Prod.mk.inj (done.symm.trans once)
    obtain rfl := Except.ok.inj told
    -- The host is alike for a second run, which therefore does the same.
    have alike := ready.alike left here beside beside' (Ne.symm ready.apart)
      (fun _ => ready.regular plain)
    obtain ⟨last, twice, left', _⟩ := generate_of_ready reads (ready.of_alike determined alike)
    rw [← alike.held_eq] at twice left'
    refine ⟨last, twice, left'.trans ?_⟩
    rw [left, replaced_replaced ready.apart]
  · -- Both runs have the same dump, and header and report are made of that alone.
    obtain ⟨dump, dumped⟩ := exists_dump_of_ok done
    have dumped' := determined.dump_eq same.symm dumped
    obtain ⟨told, ⟨spot, named, standing⟩, _⟩ := replaced_of_generate_ok (Prod.ext dumped rfl) plain done
    obtain ⟨told', ⟨spot', named', standing'⟩, _⟩ :=
      replaced_of_generate_ok (Prod.ext dumped' rfl) plain' done'
    refine ⟨told'.trans told.symm, generator.header input dump, ?_, ?_⟩
    · rw [Host.entryAt?_of_named? named, standing]
    · rw [Host.entryAt?_of_named? named', standing']

/-- A host with one image in the root directory has no links, and all that is there stands in a directory. -/
theorem imageHost_sound : imageHost.tree.LinkFree ∧ imageHost.tree.Grounded := by
  refine ⟨.of_entries ?_, .of_entries ?_⟩
  · simp [imageHost]
  · decide

/-- With the default paths a run on an image of another name can be made again. -/
theorem generate_again_default :
    imageHost.tree.LinkFree ∧ imageHost.tree.Grounded ∧ twoColumns.dumper.ReadOnly ∧
      twoColumns.dumper.Determined ∧
      (∀ kind, imageHost.target? twoColumns.intermediatePath ≠ some (.special kind)) ∧
      imageHost.site? (.ofText "image.bin") ≠ imageHost.site? twoColumns.outputPath ∧
      imageHost.site? (.ofText "image.bin") ≠ imageHost.site? twoColumns.intermediatePath ∧
      ∃ report after last, twoColumns.generate (.ofText "image.bin") imageHost = (.ok report, after) ∧
        twoColumns.generate (.ofText "image.bin") after = (.ok report, last) ∧ last.tree = after.tree := by
  obtain ⟨linkFree, grounded⟩ := imageHost_sound
  -- The image lies beside both files, and no device is there.
  have reads : twoColumns.dumper.ReadOnly := Literals.readOnly 2
  have determined : twoColumns.dumper.Determined := Literals.determined 2
  have plain : ∀ kind, imageHost.target? twoColumns.intermediatePath ≠ some (.special kind) := by
    intro kind
    cases kind <;> decide
  have beside : imageHost.site? (.ofText "image.bin") ≠ imageHost.site? twoColumns.outputPath := by decide
  have beside' : imageHost.site? (.ofText "image.bin") ≠ imageHost.site? twoColumns.intermediatePath := by
    decide
  obtain ⟨report, after, done⟩ : ∃ report after,
      twoColumns.generate (.ofText "image.bin") imageHost = (.ok report, after) := ⟨_, _, rfl⟩
  obtain ⟨last, again, same⟩ :=
    (generate_again linkFree grounded determined beside beside' done).1 reads plain
  exact ⟨linkFree, grounded, reads, determined, plain, beside, beside', report, after, last, done, again, same⟩

/-- The place of a tally. -/
def tallyPlace : Location := [Utf8.encode "tally"]

/-- A dumper that gives one text for every image, and adds a dot to a tally whenever it is asked. -/
def tallyingDumper (text : String) : Dumper where
  name := "tallying"
  dump host _ :=
    let count :=
      match host.tree.lookup tallyPlace with
      | some (.file content _) => content
      | _ => []
    (.ok text, { host with tree := host.tree.set tallyPlace (.file (Path.dot :: count) false) })

/-- A generator with the default configuration whose dumper keeps a tally. -/
def tallying : Generator := { config := {}, dumper := tallyingDumper "x\n0x01\ny\n" }

/-- A host with one image and a device that swallows what it takes. -/
def deviceHost : Host :=
  ⟨⟨[([Utf8.encode "image.bin"], .file [1, 2, 0xFF] false), ([Utf8.encode "temp.h"], .special .null)]⟩, [], [], []⟩

/-- A run of a dumper that does not only read can make a difference each time, though its text is always the same; and
a run that takes away the device that swallowed its dump gives another report the next time. -/
theorem not_again_of_tally_or_device :
    (imageHost.tree.LinkFree ∧ imageHost.tree.Grounded ∧ tallying.dumper.Determined ∧
      imageHost.site? (.ofText "image.bin") ≠ imageHost.site? tallying.outputPath ∧
      imageHost.site? (.ofText "image.bin") ≠ imageHost.site? tallying.intermediatePath ∧
      ∃ report after last, tallying.generate (.ofText "image.bin") imageHost = (.ok report, after) ∧
        tallying.generate (.ofText "image.bin") after = (.ok report, last) ∧
        after.tree.lookup tallyPlace = some (.file [Path.dot] false) ∧
        last.tree.lookup tallyPlace = some (.file [Path.dot, Path.dot] false) ∧ last.tree ≠ after.tree) ∧
    (deviceHost.tree.LinkFree ∧ deviceHost.tree.Grounded ∧ twoColumns.dumper.Determined ∧
      deviceHost.site? (.ofText "image.bin") ≠ deviceHost.site? twoColumns.outputPath ∧
      deviceHost.site? (.ofText "image.bin") ≠ deviceHost.site? twoColumns.intermediatePath ∧
      ∃ report report' after last, twoColumns.generate (.ofText "image.bin") deviceHost = (.ok report, after) ∧
        twoColumns.generate (.ofText "image.bin") after = (.ok report', last) ∧
        report.bodyLines = 0 ∧ report'.bodyLines = 3) := by
  constructor
  · obtain ⟨linkFree, grounded⟩ := imageHost_sound
    have determined : tallying.dumper.Determined := ⟨fun _ _ => some "x\n0x01\ny\n", fun _ _ => rfl⟩
    let after := (tallying.generate (.ofText "image.bin") imageHost).2
    let last := (tallying.generate (.ofText "image.bin") after).2
    have once : after.tree.lookup tallyPlace = some (.file [Path.dot] false) := by rfl
    have twice : last.tree.lookup tallyPlace = some (.file [Path.dot, Path.dot] false) := by rfl
    refine ⟨linkFree, grounded, determined, by decide, by decide, _, after, last, rfl, rfl, once, twice, ?_⟩
    -- One dot is not two.
    intro same
    rw [same, once] at twice
    cases twice
  · -- The first run removes the device, so the second one reads its dump back.
    have linkFree : deviceHost.tree.LinkFree := .of_entries (by simp [deviceHost])
    have grounded : deviceHost.tree.Grounded := .of_entries (by decide)
    exact ⟨linkFree, grounded, Literals.determined 2, by decide, by decide, _, _, _, _, rfl, rfl, rfl, rfl⟩

end Generator

end ImageHeader
