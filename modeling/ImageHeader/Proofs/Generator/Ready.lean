import ImageHeader.Proofs.FileTree.Ways
import ImageHeader.Proofs.Generator.Course

/-! Readiness: what a run in a tree without links needs to succeed, beside its dump. -/

namespace ImageHeader

open FileTree

namespace FileTree

variable {tree : FileTree} {place intermediate output : Location} {header : List UInt8}

/-- The tree after a run that took away what stood at one place, and put its header at another. -/
def replaced (tree : FileTree) (intermediate output : Location) (header : List UInt8) : FileTree :=
  (tree.erase intermediate).set output (.file header false)

/-- A run changes nothing beside its two places. -/
theorem lookup_replaced_of_ne (beside : place ≠ intermediate) (beside' : place ≠ output) :
    (tree.replaced intermediate output header).lookup place = tree.lookup place := by
  rw [replaced, lookup_set_of_ne beside', lookup_erase_of_ne beside]

/-- Nothing is left at the intermediate place. -/
theorem lookup_replaced_intermediate (below : intermediate ≠ []) (apart : output ≠ intermediate) :
    (tree.replaced intermediate output header).lookup intermediate = none := by
  rw [replaced, lookup_set_of_ne (Ne.symm apart), lookup_erase_self below]

/-- A run leaves the ways as they are if no walk goes through its two places. -/
theorem SameWays.replaced (shut : tree.Shut intermediate) (shut' : tree.Shut output) :
    tree.SameWays (tree.replaced intermediate output header) := by
  have same : tree.SameWays (tree.erase intermediate) := .erase shut
  exact same.trans (.set_file (same.shut_iff.mp shut'))

end FileTree

namespace Host

variable {host other : Host}

/-- The place at which a path ends with every link followed, whether anything stands there or not. -/
def site? (host : Host) (path : Path) : Option Location := host.tree.site? host.workingDirectory path

/-- What is read at a path is the same on every host where nothing has changed at its end. -/
theorem read_toOption_eq {path : Path} (same : host.tree.SameWays other.tree)
    (here : other.workingDirectory = host.workingDirectory)
    (unchanged : ∀ place, host.site? path = some place → host.tree.lookup place = other.tree.lookup place) :
    (host.read path).toOption = (other.read path).toOption := by
  rw [read, read, here]
  exact same.read_eq unchanged

/-- In the same working directory of a tree with the same ways, a path spells the same place. -/
theorem lexicalLocation_of_sameWays (same : host.tree.SameWays other.tree)
    (here : other.workingDirectory = host.workingDirectory) (path : Path) :
    other.lexicalLocation path = host.lexicalLocation path := by
  -- The tree is only asked whether the working directory is still there.
  unfold lexicalLocation currentDirectory
  simp only [here, same.directory_iff]

end Host

/-- A dumper whose text is settled by the path and the bytes of its input, whatever else a host holds. -/
def Dumper.Determined (dumper : Dumper) : Prop :=
  ∃ text : Path → Option (List UInt8) → Option String, ∀ host input,
    (dumper.dump host input).1.toOption = text input (host.read input).toOption

/-- The same bytes give the same dump. -/
theorem Dumper.Determined.dump_eq {dumper : Dumper} {host other : Host} {input : Path} {dump : String}
    (determined : dumper.Determined) (same : (host.read input).toOption = (other.read input).toOption)
    (dumped : (dumper.dump host input).1 = .ok dump) : (dumper.dump other input).1 = .ok dump := by
  obtain ⟨text, gives⟩ := determined
  -- Both dumps are what the text is for these bytes.
  have alike := gives host input
  rw [same, ← gives other input, dumped] at alike
  cases given : (dumper.dump other input).1 with
  | error error =>
    rw [given] at alike
    cases alike
  | ok dump' =>
    rw [given] at alike
    cases alike
    rfl

namespace Generator

variable {generator : Generator} {input : Path} {host other after : Host} {opening : Opening}
  {tree : FileTree} {output intermediate : Location} {dump : String} {report : Report}

/-- Handing a dump over leaves the ways as they are. -/
theorem Opening.sameWays (opened : generator.opening? input host = some opening) :
    opening.host.tree.SameWays opening.holding :=
  ⟨Opening.within_holding opened, opening.holding_within⟩

/-- A dump leaves nothing at its place that is not erased there. -/
theorem Opening.erase_holding (opening : Opening) :
    opening.holding.erase opening.place = opening.host.tree.erase opening.place := by
  obtain ⟨_, _, _, same⟩ | ⟨_, _, same⟩ := opening.held_cases
  · rw [same]
  · rw [same, stored, erase_set]

/-- What a run in a tree without links needs to succeed: its paths spell two places, a file can be put at either, and
its dumper gives a dump that is taken. -/
structure Ready (generator : Generator) (input : Path) (host : Host) (output intermediate : Location)
    (dump : String) : Prop where
  spelled : host.lexicalLocation generator.outputPath = .ok output
  spelled' : host.lexicalLocation generator.intermediatePath = .ok intermediate
  apart : output ≠ intermediate
  fills : host.tree.Fillable host.workingDirectory generator.outputPath output
  holds : host.tree.Fillable host.workingDirectory generator.intermediatePath intermediate
  dumped : (generator.dumper.dump host input).1 = .ok dump
  taken : ¬Opening.Refused ⟨dump, host, intermediate⟩

/-- Where a file can be put for the header and for the dump, a course on which the dump is taken ends with the header,
and nothing is left of what stood at the two places before. -/
theorem Course.replaced_of_fillable {result : Except GenerateError Transcript}
    (course : Course generator input opening result tree)
    (opened : generator.opening? input host = some opening) (apart : output ≠ opening.place)
    (fills : opening.host.tree.Fillable opening.host.workingDirectory generator.outputPath output)
    (holds : opening.host.tree.Fillable opening.host.workingDirectory generator.intermediatePath
      opening.place) (taken : ¬opening.Refused) :
    generator.verdict input result
        (tree.remove opening.host.workingDirectory generator.intermediatePath) =
        .ok (generator.reportOn input (.ofLines (interior opening.held))) ∧
      tree.swept opening.host.workingDirectory generator.intermediatePath =
        opening.host.tree.replaced opening.place output
          (Header.around generator.config (inputLabel input) (interior opening.held)) := by
  have same := Opening.sameWays opened
  have fills := fills.of_sameWays same
  obtain ⟨_, entry, standing, _⟩ := Opening.leads_holding opened
  obtain ⟨room, clears, same'⟩ := fills.clears
  have holds := (holds.of_sameWays same).of_sameWays same'
  -- Making room takes away no more than what stands at the place of the header.
  obtain ⟨still, filled⟩ : room.lookup opening.place = some entry ∧
      ∀ header, room.set output header = opening.holding.set output header := by
    obtain rfl | ⟨lost, _, named, _, _, rfl⟩ := clears.eq_or_erase
    · exact ⟨standing, fun _ => rfl⟩
    · obtain rfl := Option.some.inj (fills.named.symm.trans named)
      exact ⟨(lookup_erase_of_ne (Ne.symm apart)).trans standing, set_erase _ _⟩
  -- So the dump is found again, and a new file can be made for the header.
  have finding := find_of_leads? holds.leads?_eq still
  obtain ⟨made, making⟩ := (fills.of_sameWays same').create_eq
  obtain ⟨_, _, free, rfl⟩ := clears.create_eq making
  obtain ⟨rfl, rfl⟩ := (Course.written taken clears finding making).eq_of_ok course
  generalize Header.around generator.config (inputLabel input) (interior opening.held) = content
  -- The dump can be removed beside the header.
  have beside : room.SameWays (room.set output (.file content false)) := .set_file (Shut.of_free free)
  have removing := (holds.of_sameWays beside).remove_eq ((lookup_set_of_ne (Ne.symm apart)).trans still)
  rw [swept, removing]
  exact ⟨rfl, by rw [filled, erase_set_of_ne apart, opening.erase_holding, replaced]⟩

/-- A run that is ready succeeds: it takes away what stood at the intermediate place, and puts the header at the output
place. -/
theorem generate_of_ready (reads : generator.dumper.ReadOnly)
    (ready : Ready generator input host output intermediate dump) :
    ∃ after, generator.generate input host =
        (.ok (generator.reportOn input
          (.ofLines (interior (Opening.held ⟨dump, host, intermediate⟩)))), after) ∧
      after.tree = host.tree.replaced intermediate output
        (Header.around generator.config (inputLabel input)
          (interior (Opening.held ⟨dump, host, intermediate⟩))) ∧
      after.workingDirectory = host.workingDirectory := by
  obtain ⟨sameTree, sameHere⟩ := reads host input
  have dumped := ready.dumped
  rcases gives : generator.dumper.dump host input with ⟨result, between⟩
  rw [gives] at dumped sameTree sameHere
  dsimp only at dumped sameTree sameHere
  subst dumped
  -- The dumper has left everything as it was, so the intermediate file can be made.
  have opened : generator.opening? input host = some ⟨dump, between, intermediate⟩ := by
    obtain ⟨made, created⟩ := ready.holds.create_eq
    rw [← sameTree, ← sameHere] at created
    unfold opening?
    simp only [ready.spelled, ready.spelled', if_neg ready.apart, gives, created]
  obtain ⟨result, tree, course, told, left, here⟩ := generate_course opened
  obtain ⟨succeeds, replaced_⟩ := course.replaced_of_fillable opened ready.apart
    (by simpa only [sameTree, sameHere] using ready.fills)
    (by simpa only [sameTree, sameHere] using ready.holds)
    (by simpa only [Opening.Refused, sameTree] using ready.taken)
  have held : Opening.held ⟨dump, between, intermediate⟩ = Opening.held ⟨dump, host, intermediate⟩ := by
    simp only [Opening.held, sameTree]
  rw [held] at succeeds replaced_
  refine ⟨(generator.generate input host).2, Prod.ext (told.trans succeeds) rfl, ?_, here.trans sameHere⟩
  rw [left, replaced_, sameTree]

/-- A run that succeeds in a tree without links was ready. -/
theorem ready_of_ok (linkFree : host.tree.LinkFree) (grounded : host.tree.Grounded)
    (reads : generator.dumper.ReadOnly)
    (done : generator.generate input host = (.ok report, after)) :
    ∃ output intermediate dump, Ready generator input host output intermediate dump := by
  obtain ⟨opening, opened⟩ := exists_opened_of_ok done
  obtain ⟨output, intermediate, made, spelled, spelled', apart, dumped, created⟩ :=
    opening?_eq_some opened
  obtain ⟨sameTree, sameHere⟩ := Opening.untouched opened reads
  have same := Opening.sameWays opened
  obtain ⟨result, tree, course, told, _, _⟩ := generate_course opened
  rw [done] at told
  rw [sameTree, sameHere] at created
  -- The dump was held at the place that the intermediate path spells.
  have holds := Fillable.of_create linkFree grounded created
  obtain rfl : opening.place = intermediate :=
    (eq_spelled_of_create linkFree created).trans (Host.lexicalLocation_eq grounded spelled').symm
  cases course with
  | refused | kept | lost | blocked => cases told
  | @written cleared spot taken clears finding making =>
    -- The header came to the place that the output path spells.
    rw [sameTree] at same
    have fills := (Fillable.of_clears (same.linkFree linkFree) clears making).of_sameWays same.symm
    rw [sameHere] at fills
    obtain rfl : spot = output :=
      (eq_spelled_of_named? linkFree fills.named).trans (Host.lexicalLocation_eq grounded spelled).symm
    refine ⟨spot, opening.place, opening.dump, spelled, spelled', apart, fills, holds, by rw [dumped], ?_⟩
    simpa only [Opening.Refused, sameTree] using taken

/-- No device stands where the dump of a run is to be held, if none is met under its intermediate path. -/
theorem Ready.regular (ready : Ready generator input host output intermediate dump)
    (plain : ∀ kind, host.target? generator.intermediatePath ≠ some (.special kind)) (kind : Special) :
    host.tree.lookup intermediate ≠ some (.special kind) := by
  intro device
  refine plain kind ?_
  rw [Host.target?, Host.find, find_of_leads? ready.holds.leads?_eq device]
  exact device

/-- Two hosts are alike for a run: they have the same ways and the same working directory, the image reads the same, and
no device stands on one of them alone where the dump is to be held. -/
structure Alike (input : Path) (intermediate : Location) (host other : Host) : Prop where
  ways : host.tree.SameWays other.tree
  here : other.workingDirectory = host.workingDirectory
  image : (host.read input).toOption = (other.read input).toOption
  device : ∀ kind, host.tree.lookup intermediate = some (.special kind) ↔
    other.tree.lookup intermediate = some (.special kind)

/-- Alike is alike in both directions. -/
theorem Alike.symm (alike : Alike input intermediate host other) : Alike input intermediate other host :=
  ⟨alike.ways.symm, alike.here.symm, alike.image.symm, fun kind => (alike.device kind).symm⟩

/-- On hosts that are alike the same is kept of a dump. -/
theorem Alike.held_eq (alike : Alike input intermediate host other) (dump : String) :
    Opening.held ⟨dump, host, intermediate⟩ = Opening.held ⟨dump, other, intermediate⟩ := by
  obtain ⟨kind, device, nothing, _⟩ | ⟨regular, whole, _⟩ := Opening.held_cases ⟨dump, host, intermediate⟩
  · rw [nothing]
    simp only [Opening.held, (alike.device kind).mp device]
  · -- Without a device all of it is kept on both.
    obtain ⟨kind, device, _⟩ | ⟨_, whole', _⟩ := Opening.held_cases ⟨dump, other, intermediate⟩
    · exact absurd ((alike.device kind).mpr device) (regular kind)
    · rw [whole, whole']

/-- A run that is ready on one host is ready on every host that is alike. -/
theorem Ready.of_alike (ready : Ready generator input host output intermediate dump)
    (determined : generator.dumper.Determined) (alike : Alike input intermediate host other) :
    Ready generator input other output intermediate dump where
  spelled := (Host.lexicalLocation_of_sameWays alike.ways alike.here _).trans ready.spelled
  spelled' := (Host.lexicalLocation_of_sameWays alike.ways alike.here _).trans ready.spelled'
  apart := ready.apart
  fills := alike.here ▸ ready.fills.of_sameWays alike.ways
  holds := alike.here ▸ ready.holds.of_sameWays alike.ways
  dumped := determined.dump_eq alike.image ready.dumped
  taken refused := ready.taken ⟨(alike.device _).mpr refused.1, refused.2⟩

/-- After a run the host is alike for another one whose image is at none of the two places of the first, and whose dump
is not to be held where the first one's header is, or where a device was that the first one removed. -/
theorem Ready.alike {input' : Path} {intermediate' : Location} {header : List UInt8}
    (ready : Ready generator input host output intermediate dump)
    (left : after.tree = host.tree.replaced intermediate output header)
    (here : after.workingDirectory = host.workingDirectory)
    (beside : host.site? input' ≠ host.site? generator.outputPath)
    (beside' : host.site? input' ≠ host.site? generator.intermediatePath)
    (cross : intermediate' ≠ output)
    (plain : intermediate' = intermediate → ∀ kind, host.tree.lookup intermediate ≠ some (.special kind)) :
    Alike input' intermediate' host after := by
  have ways : host.tree.SameWays after.tree :=
    left ▸ .replaced ready.holds.shut ready.fills.shut
  refine ⟨ways, here, Host.read_toOption_eq ways here fun place ends => ?_, fun kind => ?_⟩
  · -- The two paths of the run end at its two places, and the image is at neither.
    rw [ends, Host.site?, ready.fills.site?_eq] at beside
    rw [ends, Host.site?, ready.holds.site?_eq] at beside'
    rw [left, lookup_replaced_of_ne (fun same => beside' (congrArg some same))
      (fun same => beside (congrArg some same))]
  · by_cases shared : intermediate' = intermediate
    · -- No device was there before, and nothing is there now.
      rw [left, shared, lookup_replaced_intermediate ready.holds.shut.ne_root ready.apart]
      simpa using plain shared kind
    · rw [left, lookup_replaced_of_ne shared cross]

end Generator

end ImageHeader
