import ImageHeader.Dump.Literals
import ImageHeader.Proofs.Generator.Success

/-! Leftovers: when a run takes away the file that held its dump, and when it leaves it behind. -/

namespace ImageHeader

open FileTree

namespace Generator

variable {generator : Generator} {input : Path} {host : Host} {opening : Opening}
  {stage : Stage} {tree : FileTree} {content : List UInt8} {executable : Bool}
  {error : GenerateError} {report : Report}

/-- The tree of a stage without what the output path and then the intermediate path name. -/
def Stage.swept (stage : Stage) : FileTree :=
  (stage.tree.swept stage.here stage.output).swept stage.here stage.intermediate

/-- A stage that ends in an error leaves its tree swept, at whichever step it failed. -/
theorem Ends.swept_of_error (ends : Ends stage (.error error) tree)
    (stored : Stored stage.tree stage.here stage.intermediate stage.end_ stage.place content executable) :
    tree = stage.swept := by
  unfold Stage.swept
  cases ends with
  | refused cause other removing =>
    -- What cannot be removed cannot be swept either.
    have kept : stage.tree.swept stage.here stage.output = stage.tree := by
      rw [FileTree.swept, removing]
    rw [kept, stored.swept_eq]
  -- The dump was lost with the old header, and the path may still name something.
  | lost cleared cause clears finding => rw [clears.swept_eq]
  | blocked cleared cause clears finding making =>
    obtain ⟨_, still⟩ := stored.of_clears clears finding
    rw [clears.swept_eq, still.swept_eq]

/-- A stage that ends well leaves its tree swept, with the header at a place that the output path named before. -/
theorem Ends.swept_of_ok (ends : Ends stage (.ok report) tree)
    (stored : Stored stage.tree stage.here stage.intermediate stage.end_ stage.place content executable) :
    ∃ spot, stage.tree.named? stage.here stage.output = some spot ∧ spot ≠ stage.place ∧
      tree = stage.swept.set spot (.file stage.header false) := by
  cases ends with
  | done cleared spot clears finding making =>
    obtain ⟨named, _, free, _⟩ := clears.create_eq making
    obtain ⟨_, still⟩ := stored.of_clears clears finding
    -- The header came to a free place, so not to that of the dump or of a link to it.
    have beside : spot ≠ stage.place := by
      rintro rfl
      cases free.symm.trans still.standing
    have apart : spot ≠ stage.end_ := still.ne_of_free free
    refine ⟨spot, named, beside, ?_⟩
    rw [erase_set_of_ne apart, Stage.swept, clears.swept_eq, still.swept_eq]

/-- Whether a stage ends well or not, its tree is the swept one but for the header. -/
theorem Ends.lookup_eq {result : Except GenerateError Report} {other : Location}
    (ends : Ends stage result tree)
    (stored : Stored stage.tree stage.here stage.intermediate stage.end_ stage.place content executable)
    (beside : stage.tree.named? stage.here stage.output ≠ some other ∨ other = stage.place) :
    tree.lookup other = stage.swept.lookup other := by
  -- Only the header comes to a tree after it was swept, and never to the place of the dump.
  cases result with
  | error error => rw [ends.swept_of_error stored]
  | ok report =>
    have told := (ends.replaced stored).1
    obtain ⟨spot, named, apart, rfl⟩ := ends.swept_of_ok stored
    have elsewhere : other ≠ spot := by
      rintro rfl
      obtain unnamed | same := beside
      · exact unnamed named
      · exact apart same
    exact lookup_set_of_ne elsewhere

/-- The sweeping of a stage reaches the file that holds the dump. -/
def Stage.Reaches (stage : Stage) : Prop :=
  stage.tree.named? stage.here stage.output = some stage.place ∨
    (stage.tree.swept stage.here stage.output).named? stage.here stage.intermediate = some stage.place

/-- Sweeping leaves nothing where it reaches the dump. -/
theorem Stage.lookup_swept_of_reaches (reaches : stage.Reaches)
    (standing : stage.tree.lookup stage.place = some (.file content executable)) :
    stage.swept.lookup stage.place = none := by
  have solid : stage.tree.lookup stage.place ≠ some .directory := by simp [standing]
  by_cases second : (stage.tree.swept stage.here stage.output).named? stage.here stage.intermediate =
      some stage.place
  · -- The second sweep ends at the place of the dump, whether the first one did or not.
    refine lookup_swept_of_named? second fun found => ?_
    exact solid (swept_within.directory _ found)
  · have first := reaches.resolve_right second
    rw [Stage.swept, lookup_swept_of_ne second, lookup_swept_of_named? first solid]

/-- Sweeping leaves the dump where it does not reach it. -/
theorem Stage.lookup_swept_of_not_reaches (misses : ¬stage.Reaches) :
    stage.swept.lookup stage.place = stage.tree.lookup stage.place := by
  unfold Stage.Reaches at misses
  rw [not_or] at misses
  -- Neither sweep names the place of the dump.
  rw [Stage.swept, lookup_swept_of_ne misses.2, lookup_swept_of_ne misses.1]

/-- Sweeping touches no other file than the dump and what the output path names. -/
theorem Stage.lookup_swept_file {other : Location} {bytes : List UInt8} {flag : Bool}
    (stored : Stored stage.tree stage.here stage.intermediate stage.end_ stage.place content executable)
    (apart : other ≠ stage.place)
    (elsewhere : stage.tree.named? stage.here stage.output ≠ some other) :
    stage.swept.lookup other = some (.file bytes flag) ↔
      stage.tree.lookup other = some (.file bytes flag) := by
  have first := lookup_swept_of_ne elsewhere
  by_cases second : (stage.tree.swept stage.here stage.output).named? stage.here stage.intermediate =
      some other
  · -- What the intermediate path names beside the dump is a link to it.
    have named := named?_within swept_within second
    obtain rfl : stage.end_ = other := Option.some.inj (stored.named.symm.trans named)
    obtain same | ⟨target, link⟩ := stored.end_eq_or_link
    · exact absurd same apart
    · have gone := lookup_swept_of_named? second (by simp [first, link])
      rw [Stage.swept, gone, link]
      simp
  · rw [Stage.swept, lookup_swept_of_ne second, first]

/-- A tree after a run, without the file that held the dump, and otherwise with the same files as before but for
the header. -/
structure Clean (before after : FileTree) (place : Location) (header : Option Location) : Prop where
  gone : after.lookup place = none
  kept : ∀ other content executable, other ≠ place → header ≠ some other →
    (after.lookup other = some (.file content executable) ↔
      before.lookup other = some (.file content executable))

/-- The clean-up of a run reaches the file that holds its dump: the output path names it, or the intermediate path
still does when the entry at the output path is gone. -/
def Opening.Reached (generator : Generator) (opening : Opening) : Prop :=
  let tree := opening.host.tree
  let here := opening.host.workingDirectory
  tree.named? here generator.outputPath = some opening.place ∨
    (tree.swept here generator.outputPath).named? here generator.intermediatePath = some opening.place

/-- Storing the dump makes no difference to what the clean-up reaches. -/
theorem reaches_iff_reached (opened : generator.opening? input host = some opening) :
    (generator.stage input opening).Reaches ↔ opening.Reached generator := by
  -- If the output path names the dump both sides hold at once; else both trees are swept alike.
  have shut := Opening.shut_place opened
  have named_ : opening.stored.named? opening.host.workingDirectory generator.outputPath =
      opening.host.tree.named? opening.host.workingDirectory generator.outputPath :=
    named?_set_file shut
  by_cases first : opening.host.tree.named? opening.host.workingDirectory generator.outputPath =
      some opening.place
  · exact ⟨fun _ => .inl first, fun _ => .inl (named_.trans first)⟩
  · have second : (opening.stored.swept opening.host.workingDirectory generator.outputPath).named?
          opening.host.workingDirectory generator.intermediatePath =
        (opening.host.tree.swept opening.host.workingDirectory generator.outputPath).named?
          opening.host.workingDirectory generator.intermediatePath :=
      named?_swept_set shut first
    constructor
    · rintro (reaches | reaches)
      · exact absurd (named_.symm.trans reaches) first
      · exact .inr (second.symm.trans reaches)
    · rintro (reaches | reaches)
      · exact absurd reaches first
      · exact .inr (second.trans reaches)

/-- A run that opened its intermediate file takes the dump away, at whichever step it ends, exactly when its clean-up
reaches the file that holds it; otherwise the dump is left behind there. No other file but the header is touched. -/
theorem clean_iff_reached (opened : generator.opening? input host = some opening)
    (regular : opening.Regular) :
    (Clean opening.host.tree (generator.generate input host).2.tree opening.place
        (opening.host.tree.named? opening.host.workingDirectory generator.outputPath) ↔
      opening.Reached generator) ∧
    (¬opening.Reached generator →
      (generator.generate input host).2.tree.lookup opening.place =
        some (.file (Utf8.encode opening.dump) (opening.host.tree.executableAt opening.place))) := by
  have shut := Opening.shut_place opened
  have stored := stage_stored opened
  have ends := (generate_ends opened regular).1
  have same := reaches_iff_reached opened
  have named_ : opening.stored.named? opening.host.workingDirectory generator.outputPath =
      opening.host.tree.named? opening.host.workingDirectory generator.outputPath :=
    named?_set_file shut
  have left := ends.lookup_eq stored (.inr rfl)
  have remains : ¬opening.Reached generator →
      (generator.generate input host).2.tree.lookup opening.place =
        some (.file (Utf8.encode opening.dump) (opening.host.tree.executableAt opening.place)) := by
    intro misses
    have kept := Stage.lookup_swept_of_not_reaches fun reaches => misses (same.mp reaches)
    exact left.trans (kept.trans stored.standing)
  refine ⟨⟨fun clean => ?_, fun reached => ⟨?_, ?_⟩⟩, remains⟩
  · -- A dump that is left behind is not gone.
    by_contra misses
    cases clean.gone.symm.trans (remains misses)
  · exact left.trans (Stage.lookup_swept_of_reaches (same.mpr reached) stored.standing)
  · intro other bytes flag apart elsewhere
    -- Neither the sweeping nor the storing of the dump concerns another file.
    have beside : opening.stored.named? opening.host.workingDirectory generator.outputPath ≠
        some other := named_ ▸ elsewhere
    have before : opening.stored.lookup other = some (.file bytes flag) ↔
        opening.host.tree.lookup other = some (.file bytes flag) := by
      rw [Opening.stored, lookup_set_of_ne apart]
    rw [ends.lookup_eq stored (.inl beside)]
    exact (Stage.lookup_swept_file stored apart beside).trans before

/-- Where the intermediate path is no link and the output path is free, the dump is taken away. -/
theorem clean_iff_reached_bare :
    ∃ opening, threeLines.opening? ⟨[0x61]⟩ ⟨.empty, [], [], []⟩ = some opening ∧ opening.Regular ∧
      Clean opening.host.tree (threeLines.generate ⟨[0x61]⟩ ⟨.empty, [], [], []⟩).2.tree opening.place
        (opening.host.tree.named? opening.host.workingDirectory threeLines.outputPath) := by
  have opened : threeLines.opening? ⟨[0x61]⟩ ⟨.empty, [], [], []⟩ =
      some ⟨"x\n0x01\ny\n", ⟨.empty, [], [], []⟩, [Utf8.encode "temp.h"]⟩ := by
    rfl
  have regular : Opening.Regular ⟨"x\n0x01\ny\n", ⟨.empty, [], [], []⟩, [Utf8.encode "temp.h"]⟩ := by
    intro kind
    cases kind <;> decide
  -- The intermediate path names the file itself, which the dump is in.
  have reached : Opening.Reached threeLines
      ⟨"x\n0x01\ny\n", ⟨.empty, [], [], []⟩, [Utf8.encode "temp.h"]⟩ := by
    refine .inr ?_
    rfl
  exact ⟨_, opened, regular, (clean_iff_reached opened regular).1.mpr reached⟩

/-- A host on which the default intermediate path is a link to a place that is free. -/
def aliasHost : Host :=
  ⟨⟨[([Utf8.encode "image.bin"], .file [1, 2, 0xFF] false),
    ([Utf8.encode "temp.h"], .link (.ofText "stash"))]⟩, [], [], []⟩

/-- A generator with the default configuration and the dumper of literals. -/
def literalGenerator : Generator := { config := {}, dumper := Literals.dumper Literals.defaultColumns }

/-- Behind a link the dump outlives the run: only the link is taken away. -/
theorem not_clean_of_link :
    ∃ opening report after,
      literalGenerator.opening? (.ofText "image.bin") aliasHost = some opening ∧ opening.Regular ∧
      literalGenerator.generate (.ofText "image.bin") aliasHost = (.ok report, after) ∧
      aliasHost.tree.lookup opening.place = none ∧
      after.tree.lookup opening.place = some (.file (Utf8.encode opening.dump) false) ∧
      ¬Clean opening.host.tree after.tree opening.place
        (opening.host.tree.named? opening.host.workingDirectory literalGenerator.outputPath) := by
  let dump := Literals.render Literals.defaultColumns (.ofText "image.bin") [1, 2, 0xFF]
  have regular : Opening.Regular ⟨dump, aliasHost, [Utf8.encode "stash"]⟩ := by
    intro kind
    cases kind <;> decide
  -- The link is gone, and what it led to is not.
  have left : (literalGenerator.generate (.ofText "image.bin") aliasHost).2.tree.lookup
      [Utf8.encode "stash"] = some (.file (Utf8.encode dump) false) := by
    rfl
  refine ⟨⟨dump, aliasHost, [Utf8.encode "stash"]⟩, _, _, rfl, regular, rfl, rfl, left, ?_⟩
  intro clean
  cases clean.gone.symm.trans left

end Generator

end ImageHeader
