import ImageHeader.Proofs.Generator.Course

/-! Endings: in which ways a run on files can end, with what result and with which tree. -/

namespace ImageHeader

open FileTree

namespace Generator

variable {generator : Generator} {input : Path} {host : Host} {opening : Opening}

/-- What decides the rest of a run once its dump is stored. -/
structure Stage where
  /-- The tree that holds the dump. -/
  tree : FileTree
  /-- The working directory. -/
  here : Location
  /-- The path of the header. -/
  output : Path
  /-- The path under which the dump was stored. -/
  intermediate : Path
  /-- The place of the dump. -/
  place : Location
  /-- The place that the intermediate path names: that of the dump, or of a link. -/
  end_ : Location
  /-- The header to be written. -/
  header : List UInt8
  /-- The report to be given. -/
  report : Report

/-- The stage of a run after an opening. -/
def stage (generator : Generator) (input : Path) (opening : Opening) : Stage where
  tree := opening.stored
  here := opening.host.workingDirectory
  output := generator.outputPath
  intermediate := generator.intermediatePath
  place := opening.place
  end_ := (opening.stored.named? opening.host.workingDirectory generator.intermediatePath).getD []
  header := generator.header input opening.dump
  report := generator.report input opening.dump

/-- How a run ends from a stage: with which result, and with which tree. -/
inductive Ends (stage : Stage) : Except GenerateError Report → FileTree → Prop
  /-- The old header cannot be removed. -/
  | refused (cause : IoError) (other : cause ≠ .notFound)
      (removing : stage.tree.remove stage.here stage.output = .error cause) :
      Ends stage (.error (.io stage.output cause)) (stage.tree.erase stage.end_)
  /-- The dump is not found again. -/
  | lost (cleared : FileTree) (cause : IoError)
      (clears : Clears stage.tree stage.here stage.output cleared)
      (finding : cleared.find stage.here stage.intermediate = .error cause) :
      Ends stage (.error (.io stage.intermediate cause))
        (cleared.swept stage.here stage.intermediate)
  /-- No new header can be made. -/
  | blocked (cleared : FileTree) (cause : IoError)
      (clears : Clears stage.tree stage.here stage.output cleared)
      (finding : cleared.find stage.here stage.intermediate = .ok stage.place)
      (making : cleared.create stage.here stage.output = .error cause) :
      Ends stage (.error (.io stage.output cause)) (cleared.erase stage.end_)
  /-- The header is written. -/
  | done (cleared : FileTree) (spot : Location)
      (clears : Clears stage.tree stage.here stage.output cleared)
      (finding : cleared.find stage.here stage.intermediate = .ok stage.place)
      (making : cleared.create stage.here stage.output =
        .ok (cleared.set spot (.file [] false), spot)) :
      Ends stage (.ok stage.report)
        ((cleared.set spot (.file stage.header false)).erase stage.end_)

/-- A stage ends in one way only. -/
theorem Ends.unique {stage : Stage} {result result' : Except GenerateError Report}
    {tree tree' : FileTree} (ends : Ends stage result tree) (ends' : Ends stage result' tree') :
    result = result' ∧ tree = tree' := by
  -- Each step that decides how a stage goes on can have one outcome only.
  cases ends with
  | refused cause other removing =>
    cases ends' with
    | refused cause' _ removing' =>
      cases removing.symm.trans removing'
      exact ⟨rfl, rfl⟩
    | lost _ _ clears _ | blocked _ _ clears _ _ | done _ _ clears _ _ =>
      exact absurd clears (Clears.not_of_refused other removing)
  | lost cleared cause clears finding =>
    cases ends' with
    | refused _ other removing => exact absurd clears (Clears.not_of_refused other removing)
    | lost _ cause' clears' finding' =>
      obtain rfl := clears.unique clears'
      cases finding.symm.trans finding'
      exact ⟨rfl, rfl⟩
    | blocked _ _ clears' finding' _ | done _ _ clears' finding' _ =>
      obtain rfl := clears.unique clears'
      cases finding.symm.trans finding'
  | blocked cleared cause clears finding making =>
    cases ends' with
    | refused _ other removing => exact absurd clears (Clears.not_of_refused other removing)
    | lost _ _ clears' finding' =>
      obtain rfl := clears.unique clears'
      cases finding.symm.trans finding'
    | blocked _ cause' clears' _ making' =>
      obtain rfl := clears.unique clears'
      cases making.symm.trans making'
      exact ⟨rfl, rfl⟩
    | done _ _ clears' _ making' =>
      obtain rfl := clears.unique clears'
      cases making.symm.trans making'
  | done cleared spot clears finding making =>
    cases ends' with
    | refused _ other removing => exact absurd clears (Clears.not_of_refused other removing)
    | lost _ _ clears' finding' =>
      obtain rfl := clears.unique clears'
      cases finding.symm.trans finding'
    | blocked _ _ clears' _ making' =>
      obtain rfl := clears.unique clears'
      cases making.symm.trans making'
    -- Both make the header in the same tree, and so at the same place.
    | done _ spot' clears' _ making' =>
      obtain rfl := clears.unique clears'
      cases making.symm.trans making'
      exact ⟨rfl, rfl⟩

/-- After an opening the dump is stored under the intermediate path. -/
theorem stage_stored (opened : generator.opening? input host = some opening) :
    Stored (generator.stage input opening).tree (generator.stage input opening).here
      (generator.stage input opening).intermediate (generator.stage input opening).end_
      (generator.stage input opening).place (Utf8.encode opening.dump)
      (opening.host.tree.executableAt opening.place) := by
  -- What was made under the intermediate path and then filled is stored under it.
  obtain ⟨_, _, _, _, _, _, _, created⟩ := opening?_eq_some opened
  obtain ⟨end_, stored⟩ := Stored.of_create created (Opening.shut_place opened)
    (Utf8.encode opening.dump) (opening.host.tree.executableAt opening.place)
  have same : (generator.stage input opening).end_ = end_ := by
    have named := stored.named
    simp only [stage, Opening.stored, named, Option.getD_some]
  rwa [same]

/-- A course on a file is one of the ways in which its stage ends, once the verdict is given and the intermediate path
is swept. -/
theorem Course.ends {result : Except GenerateError Transcript} {tree : FileTree}
    (course : Course generator input opening result tree) (regular : opening.Regular)
    (stored : Stored opening.stored opening.host.workingDirectory generator.intermediatePath
      (generator.stage input opening).end_ opening.place (Utf8.encode opening.dump)
      (opening.host.tree.executableAt opening.place)) :
    Ends (generator.stage input opening)
      (generator.verdict input result
        (tree.remove opening.host.workingDirectory generator.intermediatePath))
      (tree.swept opening.host.workingDirectory generator.intermediatePath) := by
  obtain ⟨kind, device, _⟩ | ⟨_, whole, same⟩ := opening.held_cases
  · exact absurd device (regular kind)
  cases course with
  | refused full => exact absurd full.1 (regular _)
  | @kept cause _ other removing =>
    -- The old header stays: what was stored is swept away.
    rw [same] at removing ⊢
    rw [stored.swept_eq]
    exact .refused cause other removing
  | @lost cause _ _ clears finding =>
    rw [same] at clears
    exact .lost tree cause clears finding
  | @blocked cause _ _ clears finding making =>
    rw [same] at clears
    obtain ⟨_, still⟩ := stored.of_clears clears finding
    rw [still.swept_eq]
    exact .blocked tree cause clears finding making
  | @written cleared spot _ clears finding making =>
    rw [same] at clears
    rw [whole]
    -- The header comes to a free place, so the dump can still be removed.
    obtain ⟨_, still⟩ := stored.of_clears clears finding
    obtain ⟨_, _, free, _⟩ := clears.create_eq making
    have last := still.set_file free (generator.header input opening.dump) false
    unfold header at last
    rw [last.remove_eq, last.swept_eq, verdict, reportOn_ofLines]
    exact .done cleared spot clears finding making

/-- Every run that opens its file ends in one of the ways of its stage, in the working directory it started from. -/
theorem generate_ends (opened : generator.opening? input host = some opening)
    (regular : opening.Regular) :
    Ends (generator.stage input opening) (generator.generate input host).1
        (generator.generate input host).2.tree ∧
      (generator.generate input host).2.workingDirectory = opening.host.workingDirectory := by
  obtain ⟨result, tree, course, told, rest, here⟩ := generate_course opened
  rw [told, rest]
  exact ⟨course.ends regular (stage_stored opened), here⟩

end Generator

end ImageHeader
