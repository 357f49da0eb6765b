import ImageHeader.Proofs.Command.Start
import ImageHeader.Proofs.Config.Loading
import ImageHeader.Proofs.Generator.Run

/-! Obstacles: what can keep a command from storing its dump, and that it has changed nothing then. -/

namespace ImageHeader

namespace Options

variable {options : Options} {binary : Path} {host inner : Host} {generator : Generator}
  {config : Config} {error : CommandError} {tree : FileTree} {exchange : Dumper → Dumper}

/-- The configuration over which the options are laid: that of the file, or the default one. -/
def Base (options : Options) (host : Host) (base : Config) : Prop :=
  match options.config with
  | some path => Config.load host path = .ok base
  | none => base = {}

/-- Over a configuration that was had, the options resolve to one exactly if it is valid under them. -/
theorem resolveConfig_of_base {base : Config} (had : options.Base host base) :
    options.resolveConfig host =
      match (options.override base).flaw? with
      | some flaw => .error (.settings (.invalid flaw))
      | none => .ok (options.override base) := by
  -- With and without a file the rest is the same check of the configuration under the options.
  unfold Base at had
  unfold resolveConfig
  cases given : options.config with
  | none =>
    rw [given] at had
    subst had
    simp only [Config.validate]
    cases (options.override {}).flaw? <;> rfl
  | some path =>
    rw [given] at had
    simp only [had, Except.mapError, Config.validate]
    cases (options.override base).flaw? <;> rfl

/-- A command as it would be with each converter exchanged for another dumper. -/
def runThrough (exchange : Dumper → Dumper) (options : Options) (binary : Path) (host : Host) : CommandResult :=
  let (started, inner) := options.start host
  options.conclude binary
    (started.map fun generator => { generator with dumper := exchange generator.dumper }, inner)

/-- With every converter in its place this is the command itself. -/
theorem runThrough_id (options : Options) (binary : Path) (host : Host) :
    options.runThrough id binary host = options.run binary host := by
  unfold runThrough run
  rcases options.start host with ⟨_ | _, _⟩ <;> rfl

/-- A command that comes to no generator ends with the error that kept it from one, whatever its converter is. -/
theorem runThrough_of_error (came : options.start host = (.error error, inner)) :
    options.runThrough exchange binary host = ⟨.error error, "", inner⟩ := by
  rw [runThrough, came]
  rfl

/-- Once it is started, a command with its converter exchanged ends as its generator with that dumper does. -/
theorem runThrough_of_started {cause : GenerateError} {after : Host}
    (started : options.started? host = some (generator, inner))
    (failed : Generator.generate { generator with dumper := exchange generator.dumper } binary inner =
      (.error cause, after)) :
    options.runThrough exchange binary host = ⟨.error (.generating binary cause), "", after⟩ := by
  -- The exchange touches nothing but the dumper of the generator that was started.
  rw [runThrough, start_of_started started]
  simp only [Except.map, conclude, failed]

/-- What keeps a command from running its converter. -/
inductive Barred (options : Options) (binary : Path) (host : Host) : CommandError → Prop
  /-- The configuration file cannot be loaded. -/
  | unloaded (path : Path) (error : ConfigError) (given : options.config = some path)
      (cannot : Config.Unloadable host path error) : Barred options binary host (.loading path error)
  /-- The configuration under the options is invalid. -/
  | invalid (base : Config) (flaw : Config.Flaw) (had : options.Base host base)
      (flawed : (options.override base).flaw? = some flaw) :
      Barred options binary host (.settings (.invalid flaw))
  /-- The working directory is gone. -/
  | homeless (config : Config) (cause : IoError) (resolved : options.resolveConfig host = .ok config)
      (gone : host.currentDirectory = .error cause) : Barred options binary host (.directory cause)
  /-- The converter is unknown. -/
  | unknown (config : Config) (directory : Path) (resolved : options.resolveConfig host = .ok config)
      (absolute : host.absoluteDirectory options.directory = .ok directory)
      (other : config.converter ≠ "builtin") (other' : config.converter ≠ "xxd") :
      Barred options binary host (.selecting (.unknownConverter config.converter "builtin, xxd"))
  /-- Output and intermediate are one place. -/
  | collides (generator : Generator) (inner : Host) (place : Location)
      (started : options.started? host = some (generator, inner))
      (spelled : inner.lexicalLocation generator.outputPath = .ok place)
      (spelled' : inner.lexicalLocation generator.intermediatePath = .ok place) :
      Barred options binary host (.generating binary (.collision (Path.ofLocation place)))

/-- A command comes to its converter: it is started, and its two paths spell two places. -/
structure Converting (options : Options) (host : Host) (generator : Generator) (inner : Host) : Prop where
  started : options.started? host = some (generator, inner)
  apart : inner.lexicalLocation generator.outputPath ≠ inner.lexicalLocation generator.intermediatePath

/-- What keeps a command that came to its converter from storing a dump, and the tree that is left then. -/
inductive Unstored (options : Options) (binary : Path) (host : Host) : CommandError → FileTree → Prop
  /-- The binary cannot be read. -/
  | unreadable (generator : Generator) (inner : Host) (comes : options.Converting host generator inner)
      (builtin : generator.dumper = Literals.dumper Literals.defaultColumns) (cause : IoError)
      (reading : inner.read binary = .error cause) :
      Unstored options binary host (.generating binary (.io binary cause)) host.tree
  /-- The external converter cannot be started. -/
  | unstartable (generator : Generator) (inner : Host) (comes : options.Converting host generator inner)
      (program : Path) (external : generator.dumper = External.dumper program) (cause : IoError)
      (starting : (inner.log (.starting program binary)).spawn program [Utf8.encode "-i", binary.bytes] =
        .error cause) :
      Unstored options binary host (.generating binary (.tool (.unstartable program cause))) host.tree
  /-- The external converter ends without success. -/
  | toolFailed (generator : Generator) (inner : Host) (comes : options.Converting host generator inner)
      (program : Path) (external : generator.dumper = External.dumper program) (completion : Completion)
      (left : Host)
      (ended : (inner.log (.starting program binary)).spawn program [Utf8.encode "-i", binary.bytes] =
        .ok (completion, left))
      (unsuccessful : completion.status.succeeded = false) :
      Unstored options binary host
        (.generating binary (.tool (.toolFailed program completion.status
          (Blank.trim (Utf8.decodeLossy completion.diagnostics))))) left.tree
  /-- The intermediate file cannot be made. -/
  | uncreatable (generator : Generator) (inner : Host) (comes : options.Converting host generator inner)
      (dump : String) (left : Host) (cause : IoError)
      (dumped : generator.dumper.dump inner binary = (.ok dump, left))
      (created : left.tree.create left.workingDirectory generator.intermediatePath = .error cause) :
      Unstored options binary host (.generating binary (.io generator.intermediatePath cause)) left.tree

/-- A command that is barred fails with its error, prints nothing and leaves all but the log as it was, and so it would
with any other converter. -/
theorem Barred.runThrough_eq (barred : options.Barred binary host error) :
    ∃ events, ∀ exchange, options.runThrough exchange binary host =
      ⟨.error error, "", { host with events := events }⟩ := by
  -- Each obstacle lies before the converter is asked, so exchanging it makes no difference.
  cases barred with
  | unloaded path error given cannot =>
    have unresolved : options.resolveConfig host = .error (.loading path error) := by
      rw [resolveConfig, given]
      simp only [Config.load_eq_error.mpr cannot]
      rfl
    exact ⟨host.events, fun exchange => runThrough_of_error (by rw [start, unresolved])⟩
  | invalid base flaw had flawed =>
    have unresolved := resolveConfig_of_base had
    rw [flawed] at unresolved
    exact ⟨host.events, fun exchange => runThrough_of_error (by rw [start, unresolved])⟩
  | homeless config cause resolved gone =>
    refine ⟨host.events, fun exchange => runThrough_of_error ?_⟩
    rw [start, resolved]
    simp only [Host.absoluteDirectory, gone]
  | unknown config directory resolved absolute other other' =>
    refine ⟨(host.log (.resolved config.converter config.closing.name directory)).events,
      fun exchange => runThrough_of_error ?_⟩
    rw [start, resolved]
    simp only [absolute, dumperFor_eq, if_neg other, if_neg other']
    rfl
  | collides generator inner place started spelled spelled' =>
    obtain ⟨directory, _, _, _, _, rfl⟩ := started?_eq_some started
    -- No dumper is asked before the two places are compared.
    exact ⟨_, fun exchange =>
      runThrough_of_started started (Generator.generate_of_early (.collides place spelled spelled'))⟩

/-- A tree is what the external converter of a command left of it. -/
def LeftByTool (options : Options) (binary : Path) (host : Host) (tree : FileTree) : Prop :=
  ∃ generator inner program completion left, options.started? host = some (generator, inner) ∧
    generator.dumper = External.dumper program ∧
    (inner.log (.starting program binary)).spawn program [Utf8.encode "-i", binary.bytes] =
      .ok (completion, left) ∧
    tree = left.tree

/-- When the converter of a command gives a dump, the tree is as it was, or as the external converter left it. -/
theorem tree_of_dumped {dump : String} {left : Host}
    (started : options.started? host = some (generator, inner))
    (dumped : generator.dumper.dump inner binary = (.ok dump, left)) :
    left.tree = host.tree ∨ options.LeftByTool binary host left.tree := by
  -- The converter of literals only reads; an external one may leave anything.
  obtain builtin | ⟨program, external⟩ := dumper_of_started started
  · rw [builtin] at dumped
    simp only [Literals.dumper] at dumped
    split at dumped
    · cases dumped
    · cases dumped
      exact .inl (tree_of_started started)
  · have dumped' := dumped
    rw [external] at dumped'
    simp only [External.dumper] at dumped'
    split at dumped'
    · cases dumped'
    · rename_i completion after ended
      split at dumped'
      · cases dumped'
        exact .inr ⟨generator, inner, program, completion, left, started, external, ended, rfl⟩
      · cases dumped'

/-- A command that comes to its converter has two places for its files. -/
theorem Converting.exists_places (comes : options.Converting host generator inner) :
    ∃ output intermediate, inner.lexicalLocation generator.outputPath = .ok output ∧
      inner.lexicalLocation generator.intermediatePath = .ok intermediate ∧ output ≠ intermediate := by
  obtain ⟨output, intermediate, spelled, spelled'⟩ := lexicalLocation_of_started comes.started
  refine ⟨output, intermediate, spelled, spelled', ?_⟩
  rintro rfl
  exact comes.apart (spelled.trans spelled'.symm)

/-- A command whose converter gives no dump fails with the error of its converter. -/
theorem Converting.run_of_undumped {cause : DumpError} {left : Host}
    (comes : options.Converting host generator inner)
    (dumped : generator.dumper.dump inner binary = (.error cause, left)) :
    options.run binary host = ⟨.error (.generating binary (.ofDump cause)), "", left⟩ := by
  obtain ⟨output, intermediate, spelled, spelled', apart⟩ := comes.exists_places
  exact (run_of_started comes.started).1 _ _
    (Generator.generate_of_early (.undumped output intermediate spelled spelled' apart _ _ dumped))

/-- A command that cannot store its dump fails with its error, prints nothing, and leaves the tree as it was or as the
external converter left it. -/
theorem Unstored.run_eq (unstored : options.Unstored binary host error tree) :
    (∃ after, options.run binary host = ⟨.error error, "", after⟩ ∧ after.tree = tree) ∧
      (tree = host.tree ∨ options.LeftByTool binary host tree) := by
  -- In three cases there is no dump; in the last one there is no file for it.
  cases unstored with
  | unreadable generator inner comes builtin cause reading =>
    have dumped : generator.dumper.dump inner binary = (.error (.unreadable binary cause), inner) := by
      rw [builtin]
      simp only [Literals.dumper, reading]
    exact ⟨⟨_, comes.run_of_undumped dumped, tree_of_started comes.started⟩, .inl rfl⟩
  | unstartable generator inner comes program external cause starting =>
    have dumped : generator.dumper.dump inner binary =
        (.error (.unstartable program cause), inner.log (.starting program binary)) := by
      rw [external]
      simp only [External.dumper, starting]
    have same : inner.tree = host.tree := tree_of_started comes.started
    exact ⟨⟨_, comes.run_of_undumped dumped, same⟩, .inl rfl⟩
  | toolFailed generator inner comes program external completion left ended unsuccessful =>
    have dumped : generator.dumper.dump inner binary = (.error (.toolFailed program completion.status
        (Blank.trim (Utf8.decodeLossy completion.diagnostics))), left) := by
      rw [external]
      simp only [External.dumper, ended, unsuccessful]
      rfl
    exact ⟨⟨_, comes.run_of_undumped dumped, rfl⟩,
      .inr ⟨generator, inner, program, completion, left, comes.started, external, ended, rfl⟩⟩
  | uncreatable generator inner comes dump left cause dumped created =>
    obtain ⟨output, intermediate, spelled, spelled', apart⟩ := comes.exists_places
    have failed := Generator.generate_of_early
      (.uncreated output intermediate spelled spelled' apart dump left cause dumped created)
    exact ⟨⟨_, (run_of_started comes.started).1 _ _ failed, rfl⟩, tree_of_dumped comes.started dumped⟩

/-- Over a configuration that was had, only a flaw keeps the options from being resolved. -/
theorem barred_of_base {base : Config} (had : options.Base host base)
    (unresolved : options.resolveConfig host = .error error) : options.Barred binary host error := by
  -- With a base the check is all that can fail.
  have resolves := resolveConfig_of_base had
  rw [unresolved] at resolves
  split at resolves
  · rename_i flaw flawed
    cases resolves
    exact .invalid base flaw had flawed
  · cases resolves

/-- A command that fails to get a configuration is barred. -/
theorem barred_of_unresolved (unresolved : options.resolveConfig host = .error error) :
    options.Barred binary host error := by
  -- Without a file the base is made of the defaults.
  cases given : options.config with
  | none =>
    have had : options.Base host {} := by
      rw [Base, given]
    exact barred_of_base had unresolved
  | some path =>
    cases loads : Config.load host path with
    | error cause =>
      rw [resolveConfig, given] at unresolved
      simp only [loads] at unresolved
      cases unresolved
      exact .unloaded path cause given (Config.load_eq_error.mp loads)
    | ok base =>
      have had : options.Base host base := by
        rw [Base, given]
        exact loads
      exact barred_of_base had unresolved

/-- A command that is not started is barred. -/
theorem barred_of_unstarted (unstarted : options.started? host = none) :
    ∃ error, options.Barred binary host error := by
  cases resolved : options.resolveConfig host with
  | error error => exact ⟨error, barred_of_unresolved resolved⟩
  | ok config =>
    cases absolute : host.absoluteDirectory options.directory with
    | error error =>
      -- Only the working directory can be missed.
      cases gone : host.currentDirectory with
      | error cause => exact ⟨_, .homeless config cause resolved gone⟩
      | ok current =>
        unfold Host.absoluteDirectory at absolute
        simp only [gone] at absolute
        split at absolute <;> cases absolute
    | ok directory =>
      -- A converter of either name would have been started.
      simp only [started?, start, resolved, absolute, dumperFor_eq] at unstarted
      by_cases other : config.converter = "builtin"
      · simp [other] at unstarted
      · by_cases other' : config.converter = "xxd"
        · simp [other'] at unstarted
        · exact ⟨_, .unknown config directory resolved absolute other other'⟩

/-- A converter that gives no dump fails in one of the ways of the two converters. -/
theorem Converting.unstored_of_undumped {cause : DumpError} {left : Host}
    (comes : options.Converting host generator inner)
    (dumped : generator.dumper.dump inner binary = (.error cause, left)) :
    ∃ error tree, options.Unstored binary host error tree := by
  -- The failures of both converters are gone through as their definitions list them.
  obtain builtin | ⟨program, external⟩ := dumper_of_started comes.started
  · rw [builtin] at dumped
    simp only [Literals.dumper] at dumped
    split at dumped
    · rename_i cause reading
      exact ⟨_, _, .unreadable generator inner comes builtin cause reading⟩
    · cases dumped
  · rw [external] at dumped
    simp only [External.dumper] at dumped
    split at dumped
    · rename_i cause starting
      exact ⟨_, _, .unstartable generator inner comes program external cause starting⟩
    · rename_i completion after ended
      split at dumped
      · cases dumped
      · rename_i failed
        have unsuccessful : completion.status.succeeded = false := by simpa using failed
        exact ⟨_, _, .toolFailed generator inner comes program external completion after ended unsuccessful⟩

/-- A command whose generator ends early is barred, or does not store its dump. -/
theorem obstacle_of_unopened (started : options.started? host = some (generator, inner))
    (unopened : generator.opening? binary inner = none) :
    (∃ error, options.Barred binary host error) ∨ ∃ error tree, options.Unstored binary host error tree := by
  obtain ⟨output, intermediate, spelled, spelled'⟩ := lexicalLocation_of_started started
  have comes (apart : output ≠ intermediate) : options.Converting host generator inner :=
    ⟨started, by rw [spelled, spelled']; simpa using apart⟩
  obtain ⟨_, _, early⟩ := Generator.exists_early_of_unopened unopened
  -- The working directory was there when the command started, so its loss is no case.
  cases early with
  | homeless cause lost => cases spelled.symm.trans lost
  | homeless' cause _ _ lost => cases spelled'.symm.trans lost
  | collides place same same' => exact .inl ⟨_, .collides generator inner place started same same'⟩
  | undumped _ _ first second apart error _ dumped =>
    obtain rfl := Except.ok.inj (spelled.symm.trans first)
    obtain rfl := Except.ok.inj (spelled'.symm.trans second)
    exact .inr ((comes apart).unstored_of_undumped dumped)
  | uncreated _ _ first second apart dump left cause dumped created =>
    obtain rfl := Except.ok.inj (spelled.symm.trans first)
    obtain rfl := Except.ok.inj (spelled'.symm.trans second)
    exact .inr ⟨_, _, .uncreatable generator inner (comes apart) dump left cause dumped created⟩

/-- A command that fails before its dump is stored changes nothing: it fails with the error of what was in its way and
prints nothing. Without a usable configuration, a working directory, a known converter or two places for its files, all
but the log stays as it was, and would with any other converter, so that none was run; and if its converter fails, or no
file can be made for the dump, the tree is as it was or as the external converter left it. Every other command opens its
intermediate file. -/
theorem run_of_obstacle (options : Options) (binary : Path) (host : Host) :
    (∀ error, options.Barred binary host error →
      ∃ events, options.run binary host = ⟨.error error, "", { host with events := events }⟩ ∧
        ∀ exchange, options.runThrough exchange binary host = options.run binary host) ∧
    (∀ error tree, options.Unstored binary host error tree →
      (∃ after, options.run binary host = ⟨.error error, "", after⟩ ∧ after.tree = tree) ∧
        (tree = host.tree ∨ options.LeftByTool binary host tree)) ∧
    ((∃ error, options.Barred binary host error) ∨ (∃ error tree, options.Unstored binary host error tree) ∨
      ∃ generator inner opening, options.started? host = some (generator, inner) ∧
        generator.opening? binary inner = some opening) := by
  refine ⟨fun error barred => ?_, fun error tree unstored => unstored.run_eq, ?_⟩
  · -- To leave the converter as it is, is one of the exchanges.
    obtain ⟨events, same⟩ := barred.runThrough_eq
    have here : options.run binary host = ⟨.error error, "", { host with events := events }⟩ :=
      (runThrough_id options binary host).symm.trans (same id)
    exact ⟨events, here, fun exchange => (same exchange).trans here.symm⟩
  · -- Before the start a command is barred, and between start and opening it may still be either.
    cases started : options.started? host with
    | none => exact .inl (barred_of_unstarted started)
    | some pair =>
      obtain ⟨generator, inner⟩ := pair
      cases opened : generator.opening? binary inner with
      | none =>
        obtain barred | unstored := obstacle_of_unopened started opened
        · exact .inl barred
        · exact .inr (.inl unstored)
      | some opening => exact .inr (.inr ⟨generator, inner, opening, rfl, opened⟩)

/-- A host with an image and an old header, where the way to the intermediate file is a link to a directory. -/
def obstructedHost : Host where
  tree := ⟨[([Utf8.encode "image.bin"], .file [1, 2, 0xFF] false),
    ([Utf8.encode "mxbl_first_stage_image.h"], .file (Utf8.encode "old") true),
    ([Utf8.encode "temp.h"], .link (.ofText "stash")), ([Utf8.encode "stash"], .directory)]⟩
  workingDirectory := []
  environment := []
  events := []

/-- Options that ask for a converter. -/
def converting (name : String) : Options := { converter := some name }

/-- Where a link and an old header stand at the two paths of a command, a converter of an unknown name is not run, and
the builtin one finds no place for its dump; header and link stay as they are. -/
theorem run_of_obstacle_standing :
    ((converting "od").Barred (.ofText "image.bin") obstructedHost
        (.selecting (.unknownConverter "od" "builtin, xxd")) ∧
      ∃ events, (converting "od").run (.ofText "image.bin") obstructedHost =
          ⟨.error (.selecting (.unknownConverter "od" "builtin, xxd")), "", { obstructedHost with events := events }⟩ ∧
        ∀ exchange, (converting "od").runThrough exchange (.ofText "image.bin") obstructedHost =
          (converting "od").run (.ofText "image.bin") obstructedHost) ∧
    (converting "builtin").Unstored (.ofText "image.bin") obstructedHost
        (.generating (.ofText "image.bin") (.io (.ofText "/temp.h") .isDirectory)) obstructedHost.tree ∧
      ∃ after, (converting "builtin").run (.ofText "image.bin") obstructedHost =
          ⟨.error (.generating (.ofText "image.bin") (.io (.ofText "/temp.h") .isDirectory)), "", after⟩ ∧
        after.tree = obstructedHost.tree := by
  have barred : (converting "od").Barred (.ofText "image.bin") obstructedHost
      (.selecting (.unknownConverter "od" "builtin, xxd")) :=
    .unknown { converter := "od" } (Path.ofLocation []) rfl rfl (by decide) (by decide)
  -- The two paths spell two places, so the builtin converter is run and finds the image.
  have comes : (converting "builtin").Converting obstructedHost
      ⟨{ converter := "builtin" }, Literals.dumper Literals.defaultColumns, some (Path.ofLocation [])⟩
      (obstructedHost.log (.resolved "builtin" ClosingPolicy.verbatim.name (Path.ofLocation []))) :=
    ⟨rfl, by decide⟩
  -- The link leads to a directory, and no file is made over one.
  have unstored : (converting "builtin").Unstored (.ofText "image.bin") obstructedHost
      (.generating (.ofText "image.bin") (.io (.ofText "/temp.h") .isDirectory)) obstructedHost.tree :=
    .uncreatable _ _ comes _ (obstructedHost.log _) .isDirectory rfl rfl
  exact ⟨⟨barred, (run_of_obstacle _ _ _).1 _ barred⟩, unstored, ((run_of_obstacle _ _ _).2.1 _ _ unstored).1⟩

end Options

end ImageHeader
