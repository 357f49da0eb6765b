import ImageHeader.Command
import ImageHeader.Proofs.FileTree.Spelling

/-! Starts: how far a command gets before its generator runs, and how it goes on from there. -/

namespace ImageHeader

/-- The converter is the one of the two dumpers that has the name, or there is none. -/
theorem dumperFor_eq (host : Host) (config : Config) :
    dumperFor host config =
      if config.converter = "builtin" then .ok (Literals.dumper Literals.defaultColumns)
      else if config.converter = "xxd" then
        .ok (External.dumper (config.xxdPath.getD (External.programOf host)))
      else .error (.unknownConverter config.converter "builtin, xxd") := by
  have first : "builtin" < "xxd" := by decide
  have names : ", ".intercalate ["builtin", "xxd"] = "builtin, xxd" := by decide
  -- The two dumpers stand in the order of their names.
  have listed : Registry.standard host config.xxdPath =
      ⟨[Literals.dumper Literals.defaultColumns,
        External.dumper (config.xxdPath.getD (External.programOf host))]⟩ := by
    simp [Registry.standard, Registry.register, Registry.insert, Registry.empty, Literals.dumper,
      External.dumper, first]
  rw [dumperFor, listed]
  by_cases builtin : config.converter = "builtin"
  · simp [Registry.take, Registry.get?, Literals.dumper, builtin, Except.map]
  · by_cases external : config.converter = "xxd"
    · simp [Registry.take, Registry.get?, Literals.dumper, External.dumper, external, Except.map]
    · simp [Registry.take, Registry.get?, Registry.unknown, Registry.names, Literals.dumper,
        External.dumper, builtin, external, Ne.symm builtin, Ne.symm external, Except.map, names]

/-- The converter of that name makes the dump of literals. -/
theorem dumperFor_builtin {host : Host} {config : Config} (named : config.converter = "builtin") :
    dumperFor host config = .ok (Literals.dumper Literals.defaultColumns) := by
  rw [dumperFor_eq, if_pos named]

namespace Path

variable {directory path : Path}

/-- Below a directory that is found from the root every path starts at the root. -/
theorem isAbsolute_join (absolute : directory.isAbsolute = true) : (directory.join path).isAbsolute = true := by
  unfold join
  split
  · assumption
  · unfold isAbsolute at absolute ⊢
    -- The bytes of the directory come first in either way of joining.
    cases bytes : directory.bytes with
    | nil => simp [bytes] at absolute
    | cons first rest =>
      split
      · simp_all
      · split <;> simp_all

end Path

/-- The absolute path of a directory starts at the root. -/
theorem Host.isAbsolute_of_absoluteDirectory {host : Host} {name : String} {directory : Path}
    (absolute : host.absoluteDirectory name = .ok directory) : directory.isAbsolute = true := by
  unfold absoluteDirectory currentDirectory at absolute
  split at absolute
  · cases absolute
  · rename_i current standing
    split at standing
    · cases standing
      dsimp only at absolute
      -- It is the path of a place, or was put together from one.
      split at absolute
      · cases absolute
        exact Path.isAbsolute_ofLocation _
      · cases absolute
        exact Path.isAbsolute_join (Path.isAbsolute_ofLocation _)
    · cases standing

namespace Options

variable {options : Options} {binary : Path} {host inner : Host} {generator : Generator}

/-- A configuration that is resolved is the options laid over another one, and valid. -/
theorem override_of_resolveConfig {config : Config} (resolved : options.resolveConfig host = .ok config) :
    ∃ base, config = options.override base ∧ config.validate = .ok () := by
  -- The options were laid over what was loaded, and the check came last.
  unfold resolveConfig at resolved
  dsimp only at resolved
  split at resolved
  · cases resolved
  · rename_i base _
    split at resolved
    · cases resolved
    · rename_i valid
      cases resolved
      exact ⟨base, rfl, valid⟩

/-- The generator that a command comes to run, and the host on which it runs it, if it gets that far. -/
def started? (options : Options) (host : Host) : Option (Generator × Host) :=
  match options.start host with
  | (.error _, _) => none
  | (.ok generator, inner) => some (generator, inner)

/-- A command that is started has come to its generator. -/
theorem start_of_started (started : options.started? host = some (generator, inner)) :
    options.start host = (.ok generator, inner) := by
  unfold started? at started
  split at started
  · cases started
  · rename_i came
    cases started
    exact came

/-- A command that is started has a configuration, a directory and a dumper, and nothing was done so far but to log. -/
theorem started?_eq_some (started : options.started? host = some (generator, inner)) :
    ∃ directory, options.resolveConfig host = .ok generator.config ∧
      host.absoluteDirectory options.directory = .ok directory ∧
      generator.baseDirectory = some directory ∧
      dumperFor inner generator.config = .ok generator.dumper ∧
      inner = host.log
        (.resolved generator.config.converter generator.config.closing.name directory) := by
  have came := start_of_started started
  unfold start at came
  -- Each of the three steps towards the generator has succeeded.
  split at came
  · cases came
  · rename_i config resolved
    split at came
    · cases came
    · rename_i directory absolute
      dsimp only at came
      split at came
      · cases came
      · rename_i dumper chosen
        cases came
        exact ⟨directory, resolved, absolute, rfl, chosen, rfl⟩

/-- A converter that is asked for is the one that is used. -/
theorem converter_of_started {name : String} (asked : options.converter = some name)
    (started : options.started? host = some (generator, inner)) : generator.config.converter = name := by
  obtain ⟨_, resolved, _⟩ := started?_eq_some started
  obtain ⟨base, laid, _⟩ := override_of_resolveConfig resolved
  rw [laid, override, asked, Option.getD_some]

/-- Once it is started, a command ends as its generator does: it tells the error of a run that fails, and presents the
report of one that succeeds. -/
theorem run_of_started (started : options.started? host = some (generator, inner)) :
    (∀ error after, generator.generate binary inner = (.error error, after) →
      options.run binary host = ⟨.error (.generating binary error), "", after⟩) ∧
    ∀ report after, generator.generate binary inner = (.ok report, after) →
      options.run binary host =
        options.present binary report (after.log (.generated report.output report.bodyLines)) := by
  refine ⟨fun error after failed => ?_, fun report after done => ?_⟩
  · rw [run, start_of_started started]
    simp only [conclude, failed]
  · rw [run, start_of_started started]
    simp only [conclude, done]

/-- A command that is started has one of the two converters. -/
theorem dumper_of_started (started : options.started? host = some (generator, inner)) :
    generator.dumper = Literals.dumper Literals.defaultColumns ∨
      ∃ program, generator.dumper = External.dumper program := by
  obtain ⟨_, _, _, _, chosen, _⟩ := started?_eq_some started
  -- A converter is chosen by one of two names.
  rw [dumperFor_eq] at chosen
  split at chosen
  · exact .inl (Except.ok.inj chosen).symm
  · split at chosen
    · exact .inr ⟨_, (Except.ok.inj chosen).symm⟩
    · cases chosen

/-- The two paths of a command that is started both spell a place. -/
theorem lexicalLocation_of_started (started : options.started? host = some (generator, inner)) :
    ∃ output intermediate, inner.lexicalLocation generator.outputPath = .ok output ∧
      inner.lexicalLocation generator.intermediatePath = .ok intermediate := by
  obtain ⟨directory, _, absolute, base, _⟩ := started?_eq_some started
  -- Both start at the root, so that no working directory is needed for them.
  have rooted (path : Path) : (generator.resolve path).isAbsolute = true := by
    unfold Generator.resolve
    rw [base]
    dsimp only
    split
    · assumption
    · exact Path.isAbsolute_join (Host.isAbsolute_of_absoluteDirectory absolute)
  exact ⟨_, _, if_pos (rooted _), if_pos (rooted _)⟩

/-- Nothing has been done to the tree when a command is started. -/
theorem tree_of_started (started : options.started? host = some (generator, inner)) :
    inner.tree = host.tree := by
  obtain ⟨_, _, _, _, _, rfl⟩ := started?_eq_some started
  rfl

end Options

end ImageHeader
