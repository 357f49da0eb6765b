import ImageHeader.Generator
import ImageHeader.Proofs.FileTree.Clearing
import ImageHeader.Proofs.Header.Content

/-! Runs: how far a run of the generator gets before its file is open, and how its header is written. -/

namespace ImageHeader

open FileTree

namespace Host

variable {host : Host} {path : Path}

/-- What a path stands for, with every link followed. -/
def target? (host : Host) (path : Path) : Option Entry :=
  match host.find path with
  | .error _ => none
  | .ok place => host.tree.lookup place

/-- The entry that a path names, where a link is an entry of its own. -/
def entryAt? (host : Host) (path : Path) : Option Entry :=
  (host.tree.placeOf? host.workingDirectory path).bind host.tree.lookup

/-- The entry that a path names is what stands at the named place. -/
theorem entryAt?_of_named? {place : Location}
    (named : host.tree.named? host.workingDirectory path = some place) :
    host.entryAt? path = host.tree.lookup place := by
  rw [entryAt?, placeOf?_of_named? named, Option.bind_some]

/-- Trying to remove what a path names sweeps the tree. -/
theorem tryRemove_eq (host : Host) (path : Path) :
    host.tryRemove path = { host with tree := host.tree.swept host.workingDirectory path } := by
  -- Sweeping is what removing does, with its failures passed over.
  unfold tryRemove remove swept
  cases host.tree.remove host.workingDirectory path <;> rfl

/-- What may be logged is seen neither in the tree nor in the working directory. -/
theorem quiet_of_log (host : Host) (event : Log.Event) (told : Bool) :
    (if told = true then host.log event else host).tree = host.tree ∧
      (if told = true then host.log event else host).workingDirectory = host.workingDirectory := by
  split <;> exact ⟨rfl, rfl⟩

/-- Making room for an entry clears its path, or is refused for another reason than that nothing is there. -/
theorem removeIfThere_cases (host : Host) (path : Path) :
    (∃ cause, cause ≠ .notFound ∧ host.tree.remove host.workingDirectory path = .error cause ∧
        host.removeIfThere path = .error cause) ∨
      ∃ cleared, Clears host.tree host.workingDirectory path cleared ∧
        host.removeIfThere path = .ok { host with tree := cleared } := by
  unfold removeIfThere remove
  cases removing : host.tree.remove host.workingDirectory path with
  | error cause =>
    by_cases missing : cause = .notFound
    · -- Nothing was there to be removed, and that is no fault.
      subst missing
      exact .inr ⟨host.tree, .missing removing, by simp⟩
    · exact .inl ⟨cause, missing, rfl, by simp [missing]⟩
  | ok cleared => exact .inr ⟨cleared, .removed removing, rfl⟩

end Host

/-- A dumper that may read the tree and leaves it as it is. -/
def Dumper.ReadOnly (dumper : Dumper) : Prop :=
  ∀ host input, (dumper.dump host input).2.tree = host.tree ∧
    (dumper.dump host input).2.workingDirectory = host.workingDirectory

/-- The dumper that gives one text for every image. -/
def Dumper.canned (text : String) : Dumper where
  name := "canned"
  dump host _ := (.ok text, host)

namespace Generator

variable {generator : Generator} {input : Path} {host : Host}

/-- What a run has in hand once its intermediate file is open. -/
structure Opening where
  /-- The dump. -/
  dump : String
  /-- The host as the dumper left it. -/
  host : Host
  /-- The place of the opened file. -/
  place : Location

/-- How a run opens its intermediate file, if it gets that far. -/
def opening? (generator : Generator) (input : Path) (host : Host) : Option Opening :=
  match host.lexicalLocation generator.outputPath,
    host.lexicalLocation generator.intermediatePath with
  | .ok output, .ok intermediate =>
    if output = intermediate then none
    else
      match generator.dumper.dump host input with
      | (.error _, _) => none
      | (.ok dump, host) =>
        match host.tree.create host.workingDirectory generator.intermediatePath with
        | .error _ => none
        | .ok (_, place) => some ⟨dump, host, place⟩
  | _, _ => none

namespace Opening

/-- No device was opened. -/
def Regular (opening : Opening) : Prop :=
  ∀ kind, opening.host.tree.lookup opening.place ≠ some (.special kind)

/-- The tree in which the dump is stored. -/
def stored (opening : Opening) : FileTree :=
  opening.host.tree.set opening.place
    (.file (Utf8.encode opening.dump) (opening.host.tree.executableAt opening.place))

end Opening

/-- The header of a dump. -/
def header (generator : Generator) (input : Path) (dump : String) : List UInt8 :=
  Header.around generator.config (inputLabel input) (interior (Utf8.encode dump))

/-- The report on the header of a dump. -/
def report (generator : Generator) (input : Path) (dump : String) : Report :=
  let kept := interior (Utf8.encode dump)
  { input := input
    output := generator.outputPath
    label := inputLabel input
    converter := generator.dumper.name
    bodyLines := kept.length
    closed := endsClosed kept
    appendedClose := !endsClosed kept && generator.config.closing = .ensure }

/-- A run opens its file when its two places differ, the dumper gives a dump, and the file can be made. -/
theorem opening?_eq_some {opening : Opening} (opened : generator.opening? input host = some opening) :
    ∃ output intermediate made,
      host.lexicalLocation generator.outputPath = .ok output ∧
      host.lexicalLocation generator.intermediatePath = .ok intermediate ∧
      output ≠ intermediate ∧
      generator.dumper.dump host input = (.ok opening.dump, opening.host) ∧
      opening.host.tree.create opening.host.workingDirectory generator.intermediatePath =
        .ok (made, opening.place) := by
  -- Each check that is passed on the way gives one of the facts.
  unfold opening? at opened
  split at opened
  · rename_i output intermediate spelled spelled'
    split at opened
    · cases opened
    · rename_i apart
      split at opened
      · cases opened
      · rename_i dump between dumped
        split at opened
        · cases opened
        · rename_i made place created
          cases opened
          exact ⟨output, intermediate, made, spelled, spelled', apart, dumped, created⟩
  · cases opened

/-- Nothing follows a dump for which no file can be made. -/
theorem generateFrom_of_uncreated {dump : String} {cause : IoError}
    (created : host.tree.create host.workingDirectory generator.intermediatePath = .error cause) :
    generator.generateFrom input dump host =
      (.error (.io generator.intermediatePath cause),
        host.log (.captured generator.dumper.name dump.utf8ByteSize generator.intermediatePath)) := by
  simp only [generateFrom, Host.create, Host.log, created]

/-- How a run ends before its intermediate file is open: with which error, and with which host. -/
inductive Early (generator : Generator) (input : Path) (host : Host) : GenerateError → Host → Prop
  /-- There is no working directory for the output path. -/
  | homeless (cause : IoError) (lost : host.lexicalLocation generator.outputPath = .error cause) :
      Early generator input host (.io generator.outputPath cause) host
  /-- There is no working directory for the intermediate path. -/
  | homeless' (cause : IoError) (output : Location)
      (spelled : host.lexicalLocation generator.outputPath = .ok output)
      (lost : host.lexicalLocation generator.intermediatePath = .error cause) :
      Early generator input host (.io generator.intermediatePath cause) host
  /-- Both paths spell one place. -/
  | collides (place : Location) (spelled : host.lexicalLocation generator.outputPath = .ok place)
      (spelled' : host.lexicalLocation generator.intermediatePath = .ok place) :
      Early generator input host (.collision (Path.ofLocation place)) host
  /-- The dumper gives no dump. -/
  | undumped (output intermediate : Location)
      (spelled : host.lexicalLocation generator.outputPath = .ok output)
      (spelled' : host.lexicalLocation generator.intermediatePath = .ok intermediate)
      (apart : output ≠ intermediate) (error : DumpError) (left : Host)
      (dumped : generator.dumper.dump host input = (.error error, left)) :
      Early generator input host (.ofDump error) left
  /-- The intermediate file cannot be made. -/
  | uncreated (output intermediate : Location)
      (spelled : host.lexicalLocation generator.outputPath = .ok output)
      (spelled' : host.lexicalLocation generator.intermediatePath = .ok intermediate)
      (apart : output ≠ intermediate) (dump : String) (left : Host) (cause : IoError)
      (dumped : generator.dumper.dump host input = (.ok dump, left))
      (created : left.tree.create left.workingDirectory generator.intermediatePath = .error cause) :
      Early generator input host (.io generator.intermediatePath cause)
        (left.log (.captured generator.dumper.name dump.utf8ByteSize generator.intermediatePath))

/-- A run that can end early does. -/
theorem generate_of_early {error : GenerateError} {after : Host}
    (early : Early generator input host error after) :
    generator.generate input host = (.error error, after) := by
  -- Each step that is passed is given, and the next one ends the run.
  cases early with
  | homeless cause lost => rw [generate, lost]
  | homeless' cause output spelled lost => rw [generate, spelled, lost]
  | collides place spelled spelled' =>
    rw [generate, spelled, spelled']
    exact if_pos rfl
  | undumped output intermediate spelled spelled' apart error left dumped =>
    rw [generate, spelled, spelled']
    simp only [if_neg apart, dumped]
  | uncreated output intermediate spelled spelled' apart dump left cause dumped created =>
    rw [generate, spelled, spelled']
    simp only [if_neg apart, dumped, generateFrom_of_uncreated created]

/-- A run that never opens its file ends early. -/
theorem exists_early_of_unopened (unopened : generator.opening? input host = none) :
    ∃ error after, Early generator input host error after := by
  unfold opening? at unopened
  -- Each of the five early ends is what a check on the way comes to.
  cases spelled : host.lexicalLocation generator.outputPath with
  | error cause => exact ⟨_, _, .homeless cause spelled⟩
  | ok output =>
    cases spelled' : host.lexicalLocation generator.intermediatePath with
    | error cause => exact ⟨_, _, .homeless' cause output spelled spelled'⟩
    | ok intermediate =>
      simp only [spelled, spelled'] at unopened
      by_cases same : output = intermediate
      · subst same
        exact ⟨_, _, .collides output spelled spelled'⟩
      · rw [if_neg same] at unopened
        rcases dumped : generator.dumper.dump host input with ⟨error | dump, left⟩
        · exact ⟨_, _, .undumped output intermediate spelled spelled' same error left dumped⟩
        · simp only [dumped] at unopened
          cases created : left.tree.create left.workingDirectory generator.intermediatePath with
          | error cause =>
            exact ⟨_, _, .uncreated output intermediate spelled spelled' same dump left cause dumped created⟩
          -- A file that could be made would have been opened.
          | ok pair => simp [created] at unopened

/-- A run that never opens its file fails, and leaves tree and working directory as they were or as the dumper left
them; it tells of a collision only where both paths spell one place. -/
theorem generate_of_unopened (unopened : generator.opening? input host = none) :
    ∃ error before after, generator.generate input host = (.error error, after) ∧
      (before = host ∨ before = (generator.dumper.dump host input).2) ∧
      after.tree = before.tree ∧ after.workingDirectory = before.workingDirectory ∧
      ∀ path, error = .collision path → ∃ place,
        host.lexicalLocation generator.outputPath = .ok place ∧
          host.lexicalLocation generator.intermediatePath = .ok place := by
  obtain ⟨error, after, early⟩ := exists_early_of_unopened unopened
  have failed := generate_of_early early
  -- Before each of the early ends nothing but the dumper has run.
  cases early with
  | homeless | homeless' => exact ⟨_, host, _, failed, .inl rfl, rfl, rfl, by rintro _ ⟨⟩⟩
  | collides place spelled spelled' =>
    exact ⟨_, host, _, failed, .inl rfl, rfl, rfl, fun _ _ => ⟨place, spelled, spelled'⟩⟩
  | undumped _ _ _ _ _ error _ dumped =>
    exact ⟨_, after, _, failed, .inr (by rw [dumped]), rfl, rfl, by cases error <;> rintro _ ⟨⟩⟩
  | uncreated _ _ _ _ _ _ left _ dumped =>
    exact ⟨_, left, _, failed, .inr (by rw [dumped]), rfl, rfl, by rintro _ ⟨⟩⟩

/-- A run that never opens its file fails, and leaves the tree as it was or as the dumper left it. -/
theorem generate_of_not_opened (unopened : generator.opening? input host = none) :
    ∃ error after, generator.generate input host = (.error error, after) ∧
      (after.tree = host.tree ∨ after.tree = (generator.dumper.dump host input).2.tree) := by
  obtain ⟨error, before, after, failed, source, same, _⟩ := generate_of_unopened unopened
  refine ⟨error, after, failed, ?_⟩
  obtain rfl | rfl := source
  · exact .inl same
  · exact .inr same

/-- A run that opens its file goes on from the dump. -/
theorem generate_of_opened {opening : Opening}
    (opened : generator.opening? input host = some opening) :
    generator.generate input host = generator.generateFrom input opening.dump opening.host := by
  obtain ⟨_, _, _, spelled, spelled', apart, dumped, _⟩ := opening?_eq_some opened
  -- None of the early ends is taken.
  rw [generate, spelled, spelled']
  simp only [if_neg apart, dumped]

/-- A run that succeeds has opened its file. -/
theorem exists_opened_of_ok {after : Host} {report : Report}
    (done : generator.generate input host = (.ok report, after)) :
    ∃ opening, generator.opening? input host = some opening := by
  cases opened : generator.opening? input host with
  | none =>
    -- A run that gets no further than that fails.
    obtain ⟨_, _, failed, _⟩ := generate_of_not_opened opened
    cases failed.symm.trans done
  | some opening => exact ⟨opening, rfl⟩

/-- A run that succeeds has opened its file, with the dump that the dumper gave. -/
theorem exists_opening_of_ok {between after : Host} {dump : String} {report : Report}
    (dumped : generator.dumper.dump host input = (.ok dump, between))
    (done : generator.generate input host = (.ok report, after)) :
    ∃ place, generator.opening? input host = some ⟨dump, between, place⟩ := by
  obtain ⟨opening, opened⟩ := exists_opened_of_ok done
  -- The dumper was asked once, so the dump is the given one.
  obtain ⟨_, _, _, _, _, _, dumped', _⟩ := opening?_eq_some opened
  rw [dumped] at dumped'
  cases opening
  simp only [Prod.mk.injEq, Except.ok.injEq] at dumped'
  obtain ⟨rfl, rfl⟩ := dumped'
  exact ⟨_, opened⟩

section Writing

variable {label dump : String} {place spot : Location} {cause : IoError} {executable : Bool}

/-- No header is written where the dump is not found. -/
theorem writeHeader_of_lost (finding : host.find generator.intermediatePath = .error cause) :
    generator.writeHeader label host =
      (.error (.io generator.intermediatePath cause), host) := by
  rw [writeHeader, finding]

/-- No header is written where none can be made. -/
theorem writeHeader_of_blocked (finding : host.find generator.intermediatePath = .ok place)
    (making : host.create generator.outputPath = .error cause) :
    generator.writeHeader label host = (.error (.io generator.outputPath cause), host) := by
  rw [writeHeader, finding]
  simp only [making]

/-- Where a new file can be made, the header around the dump that is read is written to it. -/
theorem writeHeader_eq_ok {bytes : List UInt8}
    (finding : host.find generator.intermediatePath = .ok place)
    (content : (host.tree.entryAt place).content = .ok bytes)
    (making : host.tree.create host.workingDirectory generator.outputPath =
      .ok (host.tree.set spot (.file [] false), spot))
    (below : spot ≠ []) :
    generator.writeHeader label host =
      (.ok (.ofLines (interior bytes)),
        { host with
          tree := host.tree.set spot
            (.file (Header.around generator.config label (interior bytes)) false) }) := by
  -- The source is what is read, and the new file takes what the sink took.
  obtain ⟨sink, writing, taken⟩ := @Header.write_unlimited generator.config label bytes
  have made : (host.tree.set spot (.file [] false)).lookup spot = some (.file [] false) := by
    rw [lookup_set_self below]
  have filled := write_file made sink.accepted.toList
  rw [set_set, taken] at filled
  -- All three steps succeed.
  rw [writeHeader, finding]
  simp only [content, Host.create, making, writing, taken, Host.write, filled, Except.mapError]

end Writing

section Opened

variable {opening : Opening}

/-- A dumper that only reads hands the tree and the working directory on. -/
theorem Opening.untouched (opened : generator.opening? input host = some opening)
    (reads : generator.dumper.ReadOnly) :
    opening.host.tree = host.tree ∧ opening.host.workingDirectory = host.workingDirectory := by
  obtain ⟨_, _, _, _, _, _, dumped, _⟩ := opening?_eq_some opened
  have same := reads host input
  rwa [dumped] at same

/-- The intermediate path leads to the place that was opened. -/
theorem Opening.leads_place (opened : generator.opening? input host = some opening) :
    opening.host.tree.leads? opening.host.workingDirectory generator.intermediatePath =
      some opening.place := by
  obtain ⟨_, _, _, _, _, _, _, created⟩ := opening?_eq_some opened
  exact leads?_of_makeable created

/-- The file that a run opens is made where no walk goes through. -/
theorem Opening.shut_place (opened : generator.opening? input host = some opening) :
    opening.host.tree.Shut opening.place := by
  obtain ⟨_, _, _, _, _, _, _, created⟩ := opening?_eq_some opened
  exact shut_of_create created

/-- A path that stands for no device opens none. -/
theorem Opening.regular_of_target? (opened : generator.opening? input host = some opening)
    (plain : ∀ kind, opening.host.target? generator.intermediatePath ≠ some (.special kind)) :
    opening.Regular := by
  intro kind device
  -- Whoever opens the path for reading comes to the same place.
  refine plain kind ?_
  rw [Host.target?, Host.find, find_of_leads? (Opening.leads_place opened) device]
  exact device

end Opened

end Generator

end ImageHeader
