import ImageHeader.Proofs.Generator.Repetition

/-! Commuting: two runs that keep clear of each other can be made in either order. -/

namespace ImageHeader

open FileTree

/-- Headers come to two places alike in either order, if neither place is one that the other run takes away. -/
theorem FileTree.lookup_replaced_comm {tree : FileTree} {first second output output' : Location}
    {header header' : List UInt8} (apart : output ≠ output') (cross : output ≠ second)
    (cross' : output' ≠ first) (place : Location) :
    ((tree.replaced first output header).replaced second output' header').lookup place =
      ((tree.replaced second output' header').replaced first output header).lookup place := by
  simp only [replaced, lookup_set, lookup_erase]
  by_cases root : place = []
  · simp [root]
  -- At each header's place only that header counts, and elsewhere only what was erased.
  by_cases at_ : place = output
  · subst at_
    simp [root, apart, cross]
  · by_cases at_' : place = output'
    · subst at_'
      simp [root, at_, cross']
    · by_cases gone : place = first
      · subst gone
        simp [root, at_, at_']
      · simp [root, at_, at_', gone]

namespace Generator

variable {generator first second : Generator} {input input' : Path} {host middle last : Host}
  {report report' : Report} {output output' intermediate intermediate' : Location} {bytes : List UInt8}
  {dump dump' : String}

/-- After a run that was ready every entry still stands in a directory, under a name that a path can spell. -/
theorem Ready.grounded (ready : Ready generator input host output intermediate dump)
    (grounded : host.tree.Grounded) (header : List UInt8) :
    (host.tree.replaced intermediate output header).Grounded := by
  have same : host.tree.SameWays (host.tree.replaced intermediate output header) :=
    .replaced ready.holds.shut ready.fills.shut
  -- An entry of the new tree is the header, or was there before.
  have origin (above : Location) (name : Name) (entry : Entry)
      (found : (host.tree.replaced intermediate output header).lookup (above ++ [name]) = some entry) :
      above ++ [name] = output ∨ host.tree.lookup (above ++ [name]) = some entry := by
    by_cases new : above ++ [name] = output
    · exact .inl new
    · by_cases gone : above ++ [name] = intermediate
      · rw [gone, lookup_replaced_intermediate ready.holds.shut.ne_root ready.apart] at found
        cases found
      · exact .inr ((lookup_replaced_of_ne gone new).symm.trans found)
  refine ⟨fun above name entry found => same.directory_iff.mp ?_, fun above name entry found => ?_⟩
  · obtain new | old := origin above name entry found
    · have held := ready.fills.held
      rwa [← new, List.dropLast_concat] at held
    · exact grounded.parent above name entry old
  · obtain new | old := origin above name entry found
    · exact Host.proper_of_lexicalLocation grounded ready.spelled name (new ▸ by simp)
    · exact grounded.proper above name entry old

/-- Two runs on one host keep clear of each other: neither header comes where the other one comes or where the dump of
the other run is held, and neither image is where the other run changes anything. The two dumps may be held at one
place. -/
structure Clear (first second : Generator) (input input' : Path) (host : Host) : Prop where
  outputs : host.site? first.outputPath ≠ host.site? second.outputPath
  cross : host.site? first.outputPath ≠ host.site? second.intermediatePath
  cross' : host.site? second.outputPath ≠ host.site? first.intermediatePath
  image : host.site? input ≠ host.site? second.outputPath
  held : host.site? input ≠ host.site? second.intermediatePath
  image' : host.site? input' ≠ host.site? first.outputPath
  held' : host.site? input' ≠ host.site? first.intermediatePath

/-- Keeping clear of each other is mutual. -/
theorem Clear.symm (clear : Clear first second input input' host) : Clear second first input' input host where
  outputs := Ne.symm clear.outputs
  cross := clear.cross'
  cross' := clear.cross
  image := clear.image'
  held := clear.held'
  image' := clear.image
  held' := clear.held

/-- After a run the host is alike for another one that keeps clear of it, unless a device that took both dumps is
gone. -/
theorem Clear.alike (clear : Clear first second input input' host)
    (ready : Ready first input host output intermediate dump)
    (holds : host.tree.Fillable host.workingDirectory second.intermediatePath intermediate')
    (left : middle.tree = host.tree.replaced intermediate output bytes)
    (here : middle.workingDirectory = host.workingDirectory)
    (plain : intermediate' = intermediate → ∀ kind, host.tree.lookup intermediate ≠ some (.special kind)) :
    Alike input' intermediate' host middle := by
  have cross := clear.cross
  rw [Host.site?, Host.site?, ready.fills.site?_eq, holds.site?_eq] at cross
  exact ready.alike left here clear.image' clear.held' (fun same => cross (congrArg some same.symm)) plain

/-- Two runs that keep clear of each other, of dumpers that only read and whose texts are settled by path and bytes of
the image, commute in a tree without links: where both succeed one after the other, they succeed in the other order as
well, with the same two reports, and leave the same at every place. Of the place where both hold their dumps it is
asked that no device stands there: whichever run comes first would lose its dump to the device and take it away. -/
theorem generate_comm (linkFree : host.tree.LinkFree) (grounded : host.tree.Grounded)
    (reads : first.dumper.ReadOnly) (determined : first.dumper.Determined)
    (reads' : second.dumper.ReadOnly) (determined' : second.dumper.Determined)
    (clear : Clear first second input input' host)
    (plain : host.site? first.intermediatePath = host.site? second.intermediatePath →
      ∀ kind, host.target? first.intermediatePath ≠ some (.special kind))
    (done : first.generate input host = (.ok report, middle))
    (done' : second.generate input' middle = (.ok report', last)) :
    ∃ middle' last', second.generate input' host = (.ok report', middle') ∧
      first.generate input middle' = (.ok report, last') ∧
      ∀ place, last'.tree.lookup place = last.tree.lookup place := by
  obtain ⟨output, intermediate, dump, ready⟩ := ready_of_ok linkFree grounded reads done
  obtain ⟨_, once, left, here⟩ := generate_of_ready reads ready
  obtain ⟨told, rfl⟩ := Prod.mk.inj (done.symm.trans once)
  have same : host.tree.SameWays middle.tree := left ▸ .replaced ready.holds.shut ready.fills.shut
  obtain ⟨output', intermediate', dump', ready'⟩ :=
    ready_of_ok (same.linkFree linkFree) (left ▸ ready.grounded grounded _) reads' done'
  obtain ⟨_, twice, left', _⟩ := generate_of_ready reads' ready'
  obtain ⟨told', rfl⟩ := Prod.mk.inj (done'.symm.trans twice)
  have holds' := here ▸ ready'.holds.of_sameWays same.symm
  have ends : host.site? first.intermediatePath = some intermediate := ready.holds.site?_eq
  have ends' : host.site? second.intermediatePath = some intermediate' := holds'.site?_eq
  have regular (shared : intermediate' = intermediate) (kind : Special) :
      host.tree.lookup intermediate ≠ some (.special kind) :=
    ready.regular (plain (by rw [ends, ends', shared])) kind
  -- The second run was as ready before the first one.
  have alike := clear.alike ready holds' left here regular
  have ready₁ := ready'.of_alike determined' alike.symm
  obtain ⟨middle', once', left₁, here₁⟩ := generate_of_ready reads' ready₁
  -- And so is the first one after the second.
  have alike' := clear.symm.alike ready₁ ready.holds left₁ here₁ fun shared => shared ▸ regular shared.symm
  obtain ⟨last', twice', left₂, _⟩ := generate_of_ready reads (ready.of_alike determined alike')
  rw [← alike.held_eq] at told' left'
  rw [← alike'.held_eq] at twice' left₂
  refine ⟨middle', last', by rw [once', told'], by rw [twice', told], fun place => ?_⟩
  -- The two headers come to two places, neither of which the other run takes away.
  have outputs := clear.outputs
  have cross := clear.cross
  have cross' := clear.cross'
  simp only [Host.site?, ready.fills.site?_eq, ready.holds.site?_eq, ready₁.fills.site?_eq,
    ready₁.holds.site?_eq, ne_eq, Option.some.injEq] at outputs cross cross'
  rw [left', left, left₂, left₁, lookup_replaced_comm outputs cross cross']

/-- A host with two images in the root directory. -/
def twoImages : Host :=
  ⟨⟨[([Utf8.encode "boot.bin"], .file [1, 2, 0xFF] false), ([Utf8.encode "stage.bin"], .file [3] true)]⟩, [], [], []⟩

/-- A generator with the default configuration but for the name of its header. -/
def writing (output : String) : Generator :=
  { config := { output := .ofText output }, dumper := Literals.dumper 2 }

/-- Headers of two images that go through one intermediate file can be made in either order. -/
theorem generate_comm_shared :
    twoImages.tree.LinkFree ∧ twoImages.tree.Grounded ∧
      (∀ output, (writing output).dumper.ReadOnly ∧ (writing output).dumper.Determined) ∧
      Clear (writing "boot.h") (writing "stage.h") (.ofText "boot.bin") (.ofText "stage.bin") twoImages ∧
      (∀ kind, twoImages.target? (writing "boot.h").intermediatePath ≠ some (.special kind)) ∧
      ∃ report report' middle middle' last last',
        (writing "boot.h").generate (.ofText "boot.bin") twoImages = (.ok report, middle) ∧
        (writing "stage.h").generate (.ofText "stage.bin") middle = (.ok report', last) ∧
        (writing "stage.h").generate (.ofText "stage.bin") twoImages = (.ok report', middle') ∧
        (writing "boot.h").generate (.ofText "boot.bin") middle' = (.ok report, last') ∧
        ∀ place, last'.tree.lookup place = last.tree.lookup place := by
  have linkFree : twoImages.tree.LinkFree := .of_entries (by simp [twoImages])
  have grounded : twoImages.tree.Grounded := .of_entries (by decide)
  have reads (output : String) : (writing output).dumper.ReadOnly := Literals.readOnly 2
  have determined (output : String) : (writing output).dumper.Determined := Literals.determined 2
  have clear : Clear (writing "boot.h") (writing "stage.h") (.ofText "boot.bin") (.ofText "stage.bin")
      twoImages := by
    constructor <;> decide
  have plain : ∀ kind, twoImages.target? (writing "boot.h").intermediatePath ≠ some (.special kind) := by
    intro kind
    cases kind <;> decide
  obtain ⟨report, middle, done⟩ : ∃ report middle,
      (writing "boot.h").generate (.ofText "boot.bin") twoImages = (.ok report, middle) := ⟨_, _, rfl⟩
  obtain ⟨report', last, done'⟩ : ∃ report' last,
      (writing "stage.h").generate (.ofText "stage.bin") middle = (.ok report', last) := by
    cases done
    exact ⟨_, _, rfl⟩
  obtain ⟨middle', last', first_, second_, same⟩ := generate_comm linkFree grounded (reads _) (determined _)
    (reads _) (determined _) clear (fun _ => plain) done done'
  exact ⟨linkFree, grounded, fun output => ⟨reads output, determined output⟩, clear, plain, report, report',
    middle, middle', last, last', done, done', first_, second_, same⟩

/-- A dumper that gives one text for every image, but fails as long as nothing stands at a place. -/
def awaitingDumper (place : Location) (text : String) : Dumper where
  name := "awaiting"
  dump host _ :=
    match host.tree.lookup place with
    | none => (.error (.toolFailed (.ofText "awaiting") (.exited 1) ""), host)
    | some _ => (.ok text, host)

/-- A generator that has a dump only when another header is there. -/
def awaiting : Generator :=
  { config := { output := .ofText "b.h" }, dumper := awaitingDumper [Utf8.encode "a.h"] "x\n0x01\ny\n" }

/-- Where two runs that keep clear of each other hold their dumps at one device, the one that comes first loses its
dump, so that the two orders give other reports; and a run whose dumper has one text only, but does not always give it,
may succeed after another run and fail before it. -/
theorem not_comm_of_device_or_awaiting :
    (deviceHost.tree.LinkFree ∧ deviceHost.tree.Grounded ∧
      (∀ output, (writing output).dumper.ReadOnly ∧ (writing output).dumper.Determined) ∧
      Clear (writing "a.h") (writing "b.h") (.ofText "image.bin") (.ofText "image.bin") deviceHost ∧
      ∃ report report' middle last report₁ report₁' middle' last',
        (writing "a.h").generate (.ofText "image.bin") deviceHost = (.ok report, middle) ∧
        (writing "b.h").generate (.ofText "image.bin") middle = (.ok report', last) ∧
        (writing "b.h").generate (.ofText "image.bin") deviceHost = (.ok report₁', middle') ∧
        (writing "a.h").generate (.ofText "image.bin") middle' = (.ok report₁, last') ∧
        report.bodyLines = 0 ∧ report'.bodyLines = 3 ∧ report₁'.bodyLines = 0 ∧ report₁.bodyLines = 3) ∧
    (imageHost.tree.LinkFree ∧ imageHost.tree.Grounded ∧
      (writing "a.h").dumper.ReadOnly ∧ (writing "a.h").dumper.Determined ∧ awaiting.dumper.ReadOnly ∧
      (∀ host other input input' text text', (awaiting.dumper.dump host input).1 = .ok text →
        (awaiting.dumper.dump other input').1 = .ok text' → text = text') ∧
      Clear (writing "a.h") awaiting (.ofText "image.bin") (.ofText "image.bin") imageHost ∧
      (∀ kind, imageHost.target? (writing "a.h").intermediatePath ≠ some (.special kind)) ∧
      ∃ report report' middle last error after,
        (writing "a.h").generate (.ofText "image.bin") imageHost = (.ok report, middle) ∧
        awaiting.generate (.ofText "image.bin") middle = (.ok report', last) ∧
        awaiting.generate (.ofText "image.bin") imageHost = (.error error, after)) := by
  have reads (output : String) : (writing output).dumper.ReadOnly := Literals.readOnly 2
  have determined (output : String) : (writing output).dumper.Determined := Literals.determined 2
  constructor
  · have linkFree : deviceHost.tree.LinkFree := .of_entries (by simp [deviceHost])
    have grounded : deviceHost.tree.Grounded := .of_entries (by decide)
    refine ⟨linkFree, grounded, fun output => ⟨reads output, determined output⟩, by constructor <;> decide, ?_⟩
    exact ⟨_, _, _, _, _, _, _, _, rfl, rfl, rfl, rfl, rfl, rfl, rfl, rfl⟩
  · obtain ⟨linkFree, grounded⟩ := imageHost_sound
    have awaits : awaiting.dumper.ReadOnly := by
      intro host input
      simp only [awaiting, awaitingDumper]
      split <;> exact ⟨rfl, rfl⟩
    -- Whenever there is a text, it is this one.
    have gives (host : Host) (input : Path) (text : String)
        (given : (awaiting.dumper.dump host input).1 = .ok text) : text = "x\n0x01\ny\n" := by
      simp only [awaiting, awaitingDumper] at given
      split at given
      · cases given
      · exact (Except.ok.inj given).symm
    have settled (host other : Host) (input input' : Path) (text text' : String)
        (given : (awaiting.dumper.dump host input).1 = .ok text)
        (given' : (awaiting.dumper.dump other input').1 = .ok text') : text = text' :=
      (gives host input text given).trans (gives other input' text' given').symm
    refine ⟨linkFree, grounded, reads _, determined _, awaits, settled, by constructor <;> decide, ?_, ?_⟩
    · intro kind
      cases kind <;> decide
    · exact ⟨_, _, _, _, _, _, rfl, rfl, rfl⟩

end Generator

end ImageHeader
