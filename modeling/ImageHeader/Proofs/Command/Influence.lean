import ImageHeader.Proofs.Command.Start
import ImageHeader.Proofs.Generator.Influence

/-!
Influence: what of a host a command depends on.

Of the environment a command sees only which external converter to start; what else the converter sees is its own
affair.
-/

namespace ImageHeader

-- What programs leave behind can be compared.
deriving instance DecidableEq for FileTree, Completion

namespace Host

variable {host other : Host} {path program : Path} {arguments : List (List UInt8)}

/-- What a program that is started leaves behind, and the tree after it. -/
def spawned (host : Host) (program : Path) (arguments : List (List UInt8)) : Except IoError (Completion × FileTree) :=
  (host.spawn program arguments).map fun (completion, after) => (completion, after.tree)

/-- A program does not see the log. -/
theorem spawned_with (host : Host) (events : List Log.Event) (program : Path) (arguments : List (List UInt8)) :
    spawned { host with events := events } program arguments = host.spawned program arguments := by
  -- Starting a program reads tree, working directory and environment, and nothing else.
  unfold spawned spawn environmentValue?
  dsimp only
  split
  · rfl
  · split <;> rfl

/-- Nor does it see what is added to the log. -/
theorem spawned_log (host : Host) (event : Log.Event) (program : Path) (arguments : List (List UInt8)) :
    (host.log event).spawned program arguments = host.spawned program arguments :=
  spawned_with host _ program arguments

/-- A program changes nothing of a host but its tree. -/
theorem eq_of_spawn {completion : Completion} {after : Host}
    (ended : host.spawn program arguments = .ok (completion, after)) : after = { host with tree := after.tree } := by
  -- Only a program that was started leaves anything, and that is a tree.
  unfold spawn at ended
  split at ended
  · cases ended
  · dsimp only at ended
    split at ended
    · cases ended
    · cases ended
      rfl

/-- On twins the same is read. -/
theorem Twin.readText_eq (twin : host.Twin other) (path : Path) : host.readText path = other.readText path := by
  -- Reading asks for the tree and the working directory alone.
  rw [readText, readText, read, read, twin.tree, twin.here]

/-- On twins a directory is found under the same path. -/
theorem Twin.absoluteDirectory_eq (twin : host.Twin other) (directory : String) :
    host.absoluteDirectory directory = other.absoluteDirectory directory := by
  rw [absoluteDirectory, absoluteDirectory, currentDirectory, currentDirectory, twin.tree, twin.here]

/-- On twins a file has the same digest. -/
theorem Twin.fileDigest_eq (twin : host.Twin other) (path : Path) : host.fileDigest path = other.fileDigest path := by
  rw [fileDigest, fileDigest, twin.find_eq, twin.tree]

/-- Where a program leaves the same on twins, a dumper that starts it runs alike. -/
theorem Twin.dump_external (twin : host.Twin other) (input : Path)
    (same : host.spawned program [Utf8.encode "-i", input.bytes] =
      other.spawned program [Utf8.encode "-i", input.bytes]) :
    SameRun ((External.dumper program).dump host input) ((External.dumper program).dump other input) := by
  have told := twin.log (.starting program input) (.starting program input)
  -- What the program leaves does not depend on what was logged of its start.
  rw [← spawned_log host (.starting program input), ← spawned_log other (.starting program input)] at same
  unfold spawned at same
  simp only [External.dumper]
  -- The two runs of the program are compared by how they ended.
  generalize ended : (host.log _).spawn program _ = run at same ⊢
  generalize ended' : (other.log _).spawn program _ = run' at same ⊢
  cases run with
  | error cause =>
    cases run' with
    | error cause' =>
      cases same
      exact ⟨rfl, told⟩
    | ok left => cases same
  | ok left =>
    cases run' with
    | error cause => cases same
    | ok left' =>
      obtain ⟨completion, after⟩ := left
      obtain ⟨completion', after'⟩ := left'
      obtain ⟨rfl, tree⟩ := Prod.mk.inj (Except.ok.inj same)
      have left : after.Twin after' := ⟨tree, by rw [eq_of_spawn ended, eq_of_spawn ended']; exact told.here⟩
      dsimp only
      split
      · exact ⟨rfl, left⟩
      · exact ⟨rfl, left⟩

/-- On twins the dump of literals is made alike. -/
theorem Twin.dump_literals (twin : host.Twin other) (columns : Nat) (input : Path) :
    SameRun ((Literals.dumper columns).dump host input) ((Literals.dumper columns).dump other input) := by
  -- The literals are made of what is read.
  simp only [Literals.dumper]
  rw [read, read, twin.tree, twin.here]
  split
  · exact ⟨rfl, twin⟩
  · exact ⟨rfl, twin⟩

end Host

namespace Options

variable {options : Options} {binary : Path} {host other : Host}

/-- On twins the same configuration is had. -/
theorem resolveConfig_twin (twin : host.Twin other) : options.resolveConfig host = options.resolveConfig other := by
  -- Of the host only the file of the options is asked.
  have loads (path : Path) : Config.load host path = Config.load other path := by
    rw [Config.load, Config.load, twin.readText_eq]
  unfold resolveConfig
  simp only [loads]

/-- Two results that tell the same and leave twins. -/
structure SameResult (result result' : CommandResult) : Prop where
  outcome : result.outcome = result'.outcome
  printed : result.printed = result'.printed
  twin : result.host.Twin result'.host

/-- On twins a report is printed alike. -/
theorem present_twin (twin : host.Twin other) (report : Report) :
    SameResult (options.present binary report host) (options.present binary report other) := by
  -- The digest is the only thing that is asked of the host.
  unfold present
  rw [twin.fileDigest_eq]
  split
  · exact ⟨rfl, rfl, twin⟩
  · split
    · exact ⟨rfl, rfl, twin⟩
    · split <;> exact ⟨rfl, rfl, twin⟩

/-- On twins that name the same program a command comes to the same generator. -/
theorem start_twin (twin : host.Twin other) (named : External.programOf host = External.programOf other) :
    Host.SameRun (options.start host) (options.start other) := by
  unfold start
  rw [← resolveConfig_twin twin, twin.absoluteDirectory_eq]
  cases options.resolveConfig host with
  | error error => exact ⟨rfl, twin⟩
  | ok config =>
    dsimp only
    cases other.absoluteDirectory options.directory with
    | error error => exact ⟨rfl, twin⟩
    | ok directory =>
      dsimp only
      generalize Log.Event.resolved _ _ _ = event
      have told := twin.log event event
      -- Which converter a name stands for is not seen in what was logged.
      have same : dumperFor (host.log event) config = dumperFor (other.log event) config := by
        rw [dumperFor_eq, dumperFor_eq, show External.programOf (host.log event) = _ from named]
        rfl
      rw [← same]
      cases dumperFor (host.log event) config with
      | error error => exact ⟨rfl, told⟩
      | ok dumper => exact ⟨rfl, told⟩

/-- Where the dumper of a generator runs alike on twins, a command concludes alike. -/
theorem conclude_twin {generator : Generator} (twin : host.Twin other)
    (dumps : Host.SameRun (generator.dumper.dump host binary) (generator.dumper.dump other binary)) :
    SameResult (options.conclude binary (.ok generator, host)) (options.conclude binary (.ok generator, other)) := by
  obtain ⟨result, left⟩ := Generator.generate_twin twin binary dumps
  unfold conclude
  dsimp only
  -- How the two runs ended is all that the conclusion looks at.
  generalize generator.generate binary host = run at result left ⊢
  generalize generator.generate binary other = run' at result left ⊢
  obtain ⟨ending, after⟩ := run
  obtain ⟨_, after'⟩ := run'
  cases result
  cases ending with
  | error error => exact ⟨rfl, rfl, left⟩
  | ok report => exact present_twin (left.log _ _) report

/-- On twins that name the same program, and on which it leaves the same if started, a command comes to the same. -/
theorem run_twin (twin : host.Twin other) (named : External.programOf host = External.programOf other)
    (tool : ∀ config, options.resolveConfig host = .ok config → config.converter = "xxd" →
      host.spawned (config.xxdPath.getD (External.programOf host)) [Utf8.encode "-i", binary.bytes] =
        other.spawned (config.xxdPath.getD (External.programOf host)) [Utf8.encode "-i", binary.bytes]) :
    SameResult (options.run binary host) (options.run binary other) := by
  obtain ⟨came, told⟩ := @start_twin options host other twin named
  unfold run
  -- Both commands start alike, and so they stop alike or come to the same generator.
  rcases here : options.start host with ⟨result, inner⟩
  rcases there : options.start other with ⟨result', inner'⟩
  rw [here, there] at came told
  obtain rfl : result = result' := came
  cases result with
  | error error => exact ⟨rfl, rfl, told⟩
  | ok generator =>
    refine conclude_twin told ?_
    obtain ⟨_, resolved, _, _, chosen, rfl⟩ := started?_eq_some (by rw [started?, here])
    obtain ⟨_, _, _, _, _, rfl⟩ := started?_eq_some (by rw [started?, there])
    -- The external converter is the only one that sees more of the host.
    rw [dumperFor_eq] at chosen
    split at chosen
    · rw [← Except.ok.inj chosen]
      exact told.dump_literals _ _
    · split at chosen
      · rename_i external
        rw [← Except.ok.inj chosen]
        refine told.dump_external binary ?_
        rw [Host.spawned_log, Host.spawned_log]
        exact tool _ resolved external
      · cases chosen

end Options

end ImageHeader
