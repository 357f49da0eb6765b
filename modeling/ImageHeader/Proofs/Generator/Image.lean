import ImageHeader.Proofs.FileTree.Showing
import ImageHeader.Proofs.Generator.Course
import ImageHeader.Proofs.Generator.Fidelity

/-! Images: when a run leaves the file that it reads as it was, and what can be read in its stead otherwise. -/

namespace ImageHeader

open FileTree

/-- The dumper of literals only reads. -/
theorem Literals.readOnly (columns : Nat) : (Literals.dumper columns).ReadOnly := by
  intro host input
  -- Whether the file can be read or not, the host is given back as it was.
  simp only [Literals.dumper]
  cases host.read input <;> exact ⟨rfl, rfl⟩

namespace Generator

variable {generator : Generator} {input : Path} {host : Host} {opening : Opening} {image : Location}
  {entry : Entry} {bytes : List UInt8} {executable : Bool} {result : Except GenerateError Transcript}
  {tree : FileTree}

/-- The two paths of a run keep clear of its image: the dump does not go there, and making room for the header takes
away neither the image nor a link on the way to it. -/
structure Apart (generator : Generator) (input : Path) (host : Host) (image : Location) (entry : Entry) :
    Prop where
  unstored : host.find generator.intermediatePath ≠ .ok image
  unremoved : (host.tree.swept host.workingDirectory generator.outputPath).Shows host.workingDirectory
    input image entry

/-- Where the intermediate path leads to another place than the image, the dump does not go there. -/
theorem Opening.ne_place (opened : generator.opening? input host = some opening)
    (shown : opening.host.tree.lookup image = some entry)
    (unstored : opening.host.find generator.intermediatePath ≠ .ok image) : image ≠ opening.place := by
  rintro rfl
  exact unstored (find_of_leads? (Opening.leads_place opened) shown)

/-- After making room for the header, every place but that of the dump is in view alike, whether the dump was handed
over or not. -/
theorem Opening.shows_swept_holding (opened : generator.opening? input host = some opening)
    (beside : image ≠ opening.place) {here : Location} {path : Path} :
    (opening.holding.swept here path).Shows here input image entry ↔
      (opening.host.tree.swept here path).Shows here input image entry := by
  obtain ⟨_, _, _, same⟩ | ⟨_, _, same⟩ := opening.held_cases
  · rw [same]
  · rw [same]
    exact shows_swept_set (Opening.shut_place opened) beside

namespace Course

/-- Up to the clean-up no directory and no link comes into the tree. -/
theorem within (course : Course generator input opening result tree) :
    tree.Within opening.host.tree := by
  cases course with
  | refused _ | kept _ _ _ => exact opening.holding_within
  | lost _ clears _ | blocked _ clears _ _ => exact clears.within.trans opening.holding_within
  | written _ clears _ _ => exact (set_file_within.trans clears.within).trans opening.holding_within

/-- Up to the clean-up an image stays in view that is in view before and after room is made for the header. -/
theorem shows_image (course : Course generator input opening result tree)
    (before : opening.holding.Shows opening.host.workingDirectory input image entry)
    (after : (opening.holding.swept opening.host.workingDirectory generator.outputPath).Shows
      opening.host.workingDirectory input image entry) :
    tree.Shows opening.host.workingDirectory input image entry := by
  cases course with
  | refused _ | kept _ _ _ => exact before
  | lost _ clears _ | blocked _ clears _ _ => rwa [clears.swept_eq] at after
  | @written _ spot _ clears finding making =>
    rw [clears.swept_eq] at after
    -- The header comes to a free place, so not to that of the image.
    obtain ⟨_, _, free, _⟩ := clears.create_eq making
    have apart : image ≠ spot := by
      rintro rfl
      cases free.symm.trans after.standing
    exact after.within (Shut.of_free free).within_set_file
      ((lookup_set_of_ne apart).trans after.standing)

/-- At the end only the way to the dump is taken away, so an image at another place stays in view. -/
theorem shows_cleaned (opened : generator.opening? input host = some opening)
    (course : Course generator input opening result tree) (beside : image ≠ opening.place)
    (standing : opening.host.tree.lookup image = some entry) (solid : ∀ target, entry ≠ .link target)
    (shows_ : tree.Shows opening.host.workingDirectory input image entry) :
    (tree.swept opening.host.workingDirectory generator.intermediatePath).Shows
      opening.host.workingDirectory input image entry :=
  shows_.swept course.within standing solid (Opening.leads_place opened) (Opening.shut_place opened) beside

/-- What is in view before the clean-up of a run whose dump was taken is the header, or was in view as soon as there was
room for it. -/
theorem header_or_shows (course : Course generator input opening result tree) (taken : ¬opening.Refused)
    (shows_ : tree.Shows opening.host.workingDirectory input image entry) :
    entry = .file (Header.around generator.config (inputLabel input) (interior opening.held)) false ∨
      (opening.holding.swept opening.host.workingDirectory generator.outputPath).Shows
        opening.host.workingDirectory input image entry := by
  cases course with
  | refused full => exact absurd full taken
  | kept _ _ removing =>
    rw [FileTree.swept, removing]
    exact .inr shows_
  | lost _ clears _ | blocked _ clears _ _ =>
    rw [clears.swept_eq]
    exact .inr shows_
  | @written cleared spot _ clears finding making =>
    rw [clears.swept_eq]
    obtain ⟨named, _, free, _⟩ := clears.create_eq making
    by_cases at_ : image = spot
    · -- The header is all that stands at its place.
      have standing := shows_.standing
      rw [at_, lookup_set_self (ne_root_of_named? named)] at standing
      exact .inl (Option.some.inj standing).symm
    · exact .inr (shows_.within set_file_within ((lookup_set_of_ne at_).symm.trans shows_.standing))

end Course

/-- A run leaves an image in view that its paths keep clear of, at whichever step it ends. -/
theorem shows_of_apart (reads : generator.dumper.ReadOnly)
    (shown : host.tree.Shows host.workingDirectory input image entry)
    (solid : ∀ target, entry ≠ .link target) (apart : Apart generator input host image entry)
    (opened : generator.opening? input host = some opening) :
    (generator.generate input host).2.tree.Shows (generator.generate input host).2.workingDirectory
      input image entry := by
  obtain ⟨sameTree, sameHere⟩ := Opening.untouched opened reads
  obtain ⟨result, tree, course, _, rest, here⟩ := generate_course opened
  rw [rest, here]
  rw [← sameTree, ← sameHere] at shown
  obtain ⟨unstored, unremoved⟩ := apart
  rw [Host.find, ← sameTree, ← sameHere] at unstored
  rw [← sameTree, ← sameHere] at unremoved
  have beside : image ≠ opening.place := Opening.ne_place opened shown.standing unstored
  -- The image is in view while the dump is held, and when there is room for the header.
  have standing := (opening.lookup_holding beside).trans shown.standing
  have before := shown.within (Opening.within_holding opened) standing
  have after := (Opening.shows_swept_holding opened beside).mpr unremoved
  exact course.shows_cleaned opened beside shown.standing solid (course.shows_image before after)

/-- A run leaves an image in view whose dump was refused. -/
theorem shows_of_refused (reads : generator.dumper.ReadOnly)
    (shown : host.tree.Shows host.workingDirectory input image (.file bytes executable))
    (opened : generator.opening? input host = some opening) (full : opening.Refused) :
    (generator.generate input host).2.tree.Shows (generator.generate input host).2.workingDirectory
      input image (.file bytes executable) := by
  obtain ⟨sameTree, sameHere⟩ := Opening.untouched opened reads
  obtain ⟨result, tree, course, _, rest, here⟩ := generate_course opened
  rw [rest, here]
  rw [← sameTree, ← sameHere] at shown
  -- The image is a file, and what was opened is a device.
  have beside : image ≠ opening.place := by
    rintro rfl
    cases shown.standing.symm.trans full.1
  refine course.shows_cleaned opened beside shown.standing (by simp) ?_
  cases course with
  | refused _ =>
    exact shown.within (Opening.within_holding opened)
      ((opening.lookup_holding beside).trans shown.standing)
  | kept taken | lost taken | blocked taken | written taken => exact absurd full taken

/-- Where a run takes its dump and does not keep clear of its image, all that can be read under the input path is what
was kept of the dump, or the header around it. -/
theorem read_of_not_apart (reads : generator.dumper.ReadOnly)
    (shown : host.tree.Shows host.workingDirectory input image entry)
    (near : ¬Apart generator input host image entry)
    (opened : generator.opening? input host = some opening) (taken : ¬opening.Refused)
    (read_ : (generator.generate input host).2.read input = .ok bytes) :
    bytes = opening.held ∨
      bytes = Header.around generator.config (inputLabel input) (interior opening.held) := by
  obtain ⟨sameTree, sameHere⟩ := Opening.untouched opened reads
  obtain ⟨result, tree, course, _, rest, here⟩ := generate_course opened
  rw [Host.read, rest, here] at read_
  obtain ⟨place, entry', shows_, content⟩ := exists_shows_of_read read_
  -- What is left after the clean-up was there before it.
  have before := shows_.within swept_within (lookup_of_lookup_swept shows_.standing)
  obtain rfl | after := course.header_or_shows taken before
  · exact .inr (Except.ok.inj content).symm
  · by_cases beside : place = opening.place
    · -- All that stands where the file was opened is what was kept of the dump.
      obtain ⟨_, held, holds, gives⟩ := Opening.leads_holding opened
      rw [← beside] at holds
      obtain rfl := Option.some.inj (holds.symm.trans (lookup_of_lookup_swept after.standing))
      rw [content] at gives
      exact .inl (Except.ok.inj gives)
    · -- Anything else that is in view would be the image, of which the paths kept clear.
      have unremoved := (Opening.shows_swept_holding opened beside).mp after
      rw [sameTree, sameHere] at unremoved
      have first := unremoved.within swept_within (lookup_of_lookup_swept unremoved.standing)
      obtain ⟨rfl, rfl⟩ := first.unique shown
      refine absurd ⟨fun found => ?_, unremoved⟩ near
      rw [Host.find, ← sameTree, ← sameHere] at found
      exact beside (eq_of_find (Opening.leads_place opened) found)

/-- A run of a dumper that only reads leaves its image as it was, with all of its bytes, if it never opens its
intermediate file, if its dump is refused, or if its paths keep clear of the image; in every other run all that can be
read under the input path afterwards is what was kept of the dump, or the header around it. -/
theorem image_of_generate {result : Except GenerateError Report} {after : Host}
    (reads : generator.dumper.ReadOnly)
    (shown : host.tree.Shows host.workingDirectory input image (.file bytes executable))
    (ran : generator.generate input host = (result, after)) :
    ((∀ opening, generator.opening? input host = some opening →
          opening.Refused ∨ Apart generator input host image (.file bytes executable)) →
        after.tree.Shows after.workingDirectory input image (.file bytes executable) ∧
          after.read input = .ok bytes) ∧
      ∀ opening left, generator.opening? input host = some opening → ¬opening.Refused →
        ¬Apart generator input host image (.file bytes executable) → after.read input = .ok left →
          left = opening.held ∨
            left = Header.around generator.config (inputLabel input) (interior opening.held) := by
  obtain rfl : (generator.generate input host).2 = after := congrArg Prod.snd ran
  refine ⟨fun clear => ?_, fun opening left opened taken near read_ => ?_⟩
  · have kept : (generator.generate input host).2.tree.Shows
        (generator.generate input host).2.workingDirectory input image (.file bytes executable) := by
      cases opened : generator.opening? input host with
      | none =>
        -- The dumper is the only part that has run, and it only reads.
        obtain ⟨_, before, _, failed, source, tree, here, _⟩ := generate_of_unopened opened
        rw [failed, tree, here]
        obtain rfl | rfl := source
        · exact shown
        · rwa [(reads host input).1, (reads host input).2]
      | some opening =>
        obtain full | apart := clear opening opened
        · exact shows_of_refused reads shown opened full
        · exact shows_of_apart reads shown (by simp) apart opened
    exact ⟨kept, by rw [Host.read, kept.read_eq, Entry.content]⟩
  · exact read_of_not_apart reads shown near opened taken read_

/-- With the default paths a run keeps clear of an image of another name. -/
theorem image_of_generate_default :
    twoColumns.dumper.ReadOnly ∧
      imageHost.tree.Shows imageHost.workingDirectory (.ofText "image.bin") [Utf8.encode "image.bin"]
        (.file [1, 2, 0xFF] false) ∧
      Apart twoColumns (.ofText "image.bin") imageHost [Utf8.encode "image.bin"]
        (.file [1, 2, 0xFF] false) ∧
      (twoColumns.generate (.ofText "image.bin") imageHost).2.read (.ofText "image.bin") =
        .ok [1, 2, 0xFF] := by
  have reads : twoColumns.dumper.ReadOnly := Literals.readOnly 2
  have shown : imageHost.tree.Shows imageHost.workingDirectory (.ofText "image.bin")
      [Utf8.encode "image.bin"] (.file [1, 2, 0xFF] false) := ⟨by decide, by decide⟩
  have apart : Apart twoColumns (.ofText "image.bin") imageHost [Utf8.encode "image.bin"]
      (.file [1, 2, 0xFF] false) := ⟨by decide, by decide, by decide⟩
  exact ⟨reads, shown, apart, ((image_of_generate reads shown rfl).1 fun _ _ => .inr apart).2⟩

/-- A generator whose header is to take the name of the image. -/
def overwriting : Generator := { twoColumns with config := { output := .ofText "image.bin" } }

/-- A generator that holds its dump under the name of the image. -/
def consuming : Generator := { twoColumns with config := { intermediate := .ofText "image.bin" } }

/-- A run that succeeds can replace its image by the header, or take it away together with the dump. -/
theorem not_image_of_same_path :
    overwriting.dumper.ReadOnly ∧ consuming.dumper.ReadOnly ∧
      imageHost.read (.ofText "image.bin") = .ok [1, 2, 0xFF] ∧
      (∃ report after, overwriting.generate (.ofText "image.bin") imageHost = (.ok report, after) ∧
        after.read (.ofText "image.bin") ≠ .ok [1, 2, 0xFF]) ∧
      ∃ report after, consuming.generate (.ofText "image.bin") imageHost = (.ok report, after) ∧
        after.read (.ofText "image.bin") = .error .notFound := by
  refine ⟨Literals.readOnly 2, Literals.readOnly 2, by decide, ⟨_, _, rfl, ?_⟩, ⟨_, _, rfl, ?_⟩⟩
  · decide +kernel
  · decide +kernel

end Generator

end ImageHeader
