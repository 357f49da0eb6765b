import ImageHeader.Program
import ImageHeader.Proofs.Command.Influence
import ImageHeader.Proofs.Command.Report
import ImageHeader.Proofs.CommandLine.Verbosity
import ImageHeader.Proofs.Generator.Closing
import Mathlib.Logic.Relation

/-!
Outcomes: what a run of the program shows and leaves behind.

A run is what the arguments ask for: a refusal, an answer, or a command whose end is told by the exit status, by what is
printed and by one event. The flags and the variable that say what is logged have no part in anything else.
-/

namespace ImageHeader

section Logging

variable {host after : Host} {input : Path} {event : Log.Event}

/-- A run that succeeds has told of its dump, and of its header. -/
theorem Generator.events_of_generate_ok {generator : Generator} {report : Report}
    (done : generator.generate input host = (.ok report, after)) :
    ∃ size, after.events = (generator.dumper.dump host input).2.events ++
      .captured generator.dumper.name size generator.intermediatePath :: generator.finalEvents report := by
  -- Without an intermediate file no run succeeds.
  obtain ⟨opening, opened⟩ := exists_opened_of_ok done
  obtain ⟨_, _, _, _, _, _, dumped, _⟩ := opening?_eq_some opened
  rw [generate_of_opened opened] at done
  exact ⟨_, by rw [events_of_generateFrom_ok done, dumped]⟩

/-- A run of the generator logs no error but those of its dumper. -/
theorem Generator.level_of_generate {generator : Generator} {result : Except GenerateError Report}
    (done : generator.generate input host = (result, after)) (logged : event ∈ after.events) :
    event ∈ host.events ∨ event ∈ (generator.dumper.dump host input).2.events ∨ event.level ≠ .error := by
  cases result with
  | error error =>
    obtain ⟨before, origin, told⟩ := events_of_generate_error done
    -- A run that fails has told of its dump at most.
    have earlier : event ∈ before.events ∨ event.level ≠ .error := by
      obtain same | ⟨name, size, path, more⟩ := told
      · exact .inl (same ▸ logged)
      · rw [more, List.mem_append, List.mem_singleton] at logged
        refine logged.imp_right fun captured => ?_
        rw [captured]
        exact nofun
    -- It failed before its dumper was asked, or afterwards.
    obtain rfl | rfl := origin
    · exact earlier.imp_right .inr
    · exact .inr earlier
  | ok report =>
    obtain ⟨size, told⟩ := events_of_generate_ok done
    rw [told, List.mem_append, List.mem_cons] at logged
    obtain dumped | rfl | last := logged
    · exact .inr (.inl dumped)
    · exact .inr (.inr nofun)
    · -- It ends with a warning or none, and with the header.
      refine .inr (.inr ?_)
      unfold finalEvents at last
      split at last <;> simp at last
      · obtain rfl | rfl := last <;> exact nofun
      · subst last
        exact nofun

/-- Where an event that is no error was logged, no error has come into the log. -/
theorem level_of_log {other : Log.Event} (mild : other.level ≠ .error) (logged : event ∈ (host.log other).events) :
    event ∈ host.events ∨ event.level ≠ .error := by
  obtain before | new := List.mem_append.mp logged
  · exact .inl before
  · rw [List.mem_singleton.mp new]
    exact .inr mild

/-- The dumper of a command logs no error. -/
theorem level_of_dump {config : Config} {dumper : Dumper} (chosen : dumperFor host config = .ok dumper)
    (logged : event ∈ (dumper.dump host input).2.events) : event ∈ host.events ∨ event.level ≠ .error := by
  -- The dumper of literals logs nothing, and the external one tells of its start.
  rw [dumperFor_eq] at chosen
  split at chosen
  · cases chosen
    simp only [Literals.dumper] at logged
    split at logged <;> exact .inl logged
  · split at chosen
    · cases chosen
      generalize config.xxdPath.getD (External.programOf host) = program at logged
      -- The program that is started sees and changes no log.
      have told : event ∈ (host.log (.starting program input)).events := by
        simp only [External.dumper] at logged
        split at logged
        · exact logged
        · rename_i ended
          rw [Host.eq_of_spawn ended] at logged
          split at logged <;> exact logged
      exact level_of_log (by simp [Log.Event.level]) told
    · cases chosen

/-- On its way to a generator a command logs no error. -/
theorem Options.level_of_start {options : Options} {result : Except CommandError Generator}
    (came : options.start host = (result, after)) (logged : event ∈ after.events) :
    event ∈ host.events ∨ event.level ≠ .error := by
  unfold start at came
  split at came
  · cases came
    exact .inl logged
  · dsimp only at came
    split at came
    · cases came
      exact .inl logged
    · -- From here on it has told what was resolved, whether the converter is known or not.
      split at came <;> cases came <;> exact level_of_log (by simp [Log.Event.level]) logged

/-- A command logs no error. -/
theorem Options.level_of_run {options : Options} {binary : Path}
    (logged : event ∈ (options.run binary host).host.events) : event ∈ host.events ∨ event.level ≠ .error := by
  unfold run at logged
  rcases came : options.start host with ⟨_ | generator, inner⟩ <;> rw [came] at logged
  · exact level_of_start came logged
  · obtain ⟨_, _, _, _, chosen, _⟩ := started?_eq_some (by rw [started?, came])
    -- What the generator leaves in the log was there when it started, or is no error.
    have generated {result : Except GenerateError Report} {after : Host}
        (done : generator.generate binary inner = (result, after)) (logged : event ∈ after.events) :
        event ∈ host.events ∨ event.level ≠ .error := by
      obtain before | dumped | mild := Generator.level_of_generate done logged
      · exact level_of_start came before
      · exact (level_of_dump chosen dumped).elim (level_of_start came) .inr
      · exact .inr mild
    unfold conclude at logged
    dsimp only at logged
    split at logged
    · rename_i done
      exact generated done logged
    · rename_i done
      rw [host_present] at logged
      exact (level_of_log (by simp [Log.Event.level]) logged).elim (generated done) .inr

end Logging

/-- A command prints its report where one is asked for and it succeeds, and nothing otherwise. -/
theorem Options.printed_run (options : Options) (binary : Path) (host : Host) :
    (((options.run binary host).printed = "" ∧
        ∀ report, (options.run binary host).outcome = .ok report → options.json = false) ∨
      options.json = true ∧ ∃ report digest text, (options.run binary host).outcome = .ok report ∧
        (options.run binary host).host.fileDigest binary = .ok digest ∧ report.render? digest = some text ∧
        (options.run binary host).printed = text ++ "\n") := by
  unfold run
  -- Without a generator nothing is run, and nothing printed.
  rcases options.start host with ⟨_ | generator, inner⟩
  · exact .inl ⟨rfl, nofun⟩
  · unfold conclude
    dsimp only
    split
    · exact .inl ⟨rfl, nofun⟩
    · -- A run that succeeded is presented, and only the last of the ways in which that can end prints anything.
      unfold present
      split
      · rename_i mute
        exact .inl ⟨rfl, fun _ _ => by simpa using mute⟩
      · rename_i asked
        split
        · exact .inl ⟨rfl, nofun⟩
        · rename_i digest hashed
          split
          · exact .inl ⟨rfl, nofun⟩
          · rename_i text rendered
            exact .inr ⟨by simpa using asked, _, digest, text, rfl, hashed, rendered, rfl⟩

namespace Program

open CommandLine (Louder Refusal parse)

variable {host other : Host} {arguments : List (List UInt8)}

/-- The filter that is not asked for otherwise shows every error. -/
theorem shows_failed (verbosity : Nat) (chain : List String) :
    (Log.Filter.choose none verbosity).shows (.failed chain) = true := by
  -- It is a single directive for all targets, and admits warnings at least.
  have filter : ∃ rank, 1 ≤ rank ∧ Log.Filter.choose none verbosity = [{ rank := rank }] := by
    match verbosity with
    | 0 => exact ⟨2, by decide, by decide +kernel⟩
    | 1 => exact ⟨3, by decide, by decide +kernel⟩
    | 2 => exact ⟨4, by decide, by decide +kernel⟩
    | _ + 3 =>
      have trace : Log.Filter.ofText? "trace" = some [{ rank := 5 }] := by decide +kernel
      exact ⟨5, by decide, by simp [Log.Filter.choose, Log.defaultDirective, trace]⟩
  obtain ⟨rank, some_, filter⟩ := filter
  rw [filter]
  simpa [Log.Filter.shows, Log.Filter.directiveFor, Log.Directive.concerns] using
    show (Log.Event.failed chain).level.rank ≤ rank from some_

/-- The line of an event that is shown comes after those of the events before. -/
theorem logText_concat {filter : Log.Filter} {event : Log.Event} {before : List Log.Event}
    (shown : filter.shows event = true) : logText filter (before ++ [event]) = logText filter before ++ event.line := by
  simp [logText, shown]

/-- What a command comes to whose arguments were read: its end, what it prints, and the error that it logs. -/
structure Governed (command : CommandLine) (host : Host) (run : Outcome × Host) (result : CommandResult) : Prop where
  /-- The tree is the one that the command leaves. -/
  tree : run.2.tree = result.host.tree
  /-- The exit status tells whether the command succeeded. -/
  success : run.1.status = 0 ↔ ∃ report, result.outcome = .ok report
  /-- Nothing is printed unless it succeeded and a report was asked for. -/
  silent : run.1.output ≠ "" → (∃ report, result.outcome = .ok report) ∧ command.options.json = true
  /-- Then the report is printed with the digest of the binary, and a line end. -/
  printed : ∀ report, result.outcome = .ok report → command.options.json = true → ∃ digest text,
    result.host.fileDigest command.binary = .ok digest ∧ report.render? digest = some text ∧
      run.1.output = text ++ "\n"
  /-- Where no filter is asked for, a failure logs a single error, which is the last line that is shown. -/
  logged : host.environmentValue? filterVariable = none → ∀ error, result.outcome = .error error → ∃ before,
    run.2.events = before ++ [.failed error.chain] ∧ (∀ event ∈ before, event.level ≠ .error) ∧
      run.1.diagnostics =
        logText (Log.Filter.choose none command.verbosity) before ++ (Log.Event.failed error.chain).line

/-- A command comes to what its end calls for. -/
theorem governed (command : CommandLine) (host : Host) :
    Governed command host (runCommand command host)
      (command.options.run command.binary { host with events := [] }) := by
  have printing := command.options.printed_run command.binary { host with events := [] }
  -- The command starts with an empty log, so that every error in it would be one of its own.
  have mild {event : Log.Event}
      (logged : event ∈ (command.options.run command.binary { host with events := [] }).host.events) :
      event.level ≠ .error := (Options.level_of_run logged).resolve_left nofun
  unfold runCommand
  dsimp only
  generalize command.options.run command.binary { host with events := [] } = result at printing mild ⊢
  obtain ⟨outcome, printed, left⟩ := result
  cases outcome with
  | ok report =>
    refine ⟨rfl, ⟨fun _ => ⟨report, rfl⟩, fun _ => rfl⟩, ?silent, ?printed, fun _ _ failed => nomatch failed⟩
    case silent =>
      intro shown
      -- What is shown is the report, which was asked for then.
      obtain ⟨empty, _⟩ | ⟨asked, _⟩ := printing
      · exact absurd empty shown
      · exact ⟨⟨report, rfl⟩, asked⟩
    case printed =>
      intro report' told asked
      cases told
      obtain ⟨_, mute⟩ | ⟨_, _, digest, text, told, hashed, rendered, whole⟩ := printing
      · exact nomatch asked.symm.trans (mute report rfl)
      · cases told
        exact ⟨digest, text, hashed, rendered, whole⟩
  | error error =>
    refine ⟨rfl, ⟨nofun, fun ⟨_, told⟩ => nomatch told⟩, ?silent, (fun _ told => nomatch told), ?logged⟩
    case silent =>
      intro shown
      obtain ⟨empty, _⟩ | ⟨_, _, _, _, told, _⟩ := printing
      · exact absurd empty shown
      · exact nomatch told
    case logged =>
      intro unset error' told
      cases told
      refine ⟨left.events, rfl, fun event => mild, ?_⟩
      -- The failure comes last in the log, and the filter that is not asked for shows every error.
      rw [unset]
      exact logText_concat (shows_failed command.verbosity error.chain)

/-- What arguments come to on a host. -/
structure Disciplined (arguments : List (List UInt8)) (host : Host) : Prop where
  /-- The exit status is zero or one. -/
  status : (run arguments host).1.status = 0 ∨ (run arguments host).1.status = 1
  /-- Arguments that are rejected change nothing. -/
  rejected : ∀ error, parse arguments = .error (.usage error) → (run arguments host).1.status = 1 ∧
    (run arguments host).1.output = "" ∧ (run arguments host).2 = host
  /-- Neither do those that ask for help or for the version. -/
  answered : parse arguments = .error .help ∨ parse arguments = .error .version →
    (run arguments host).1.status = 0 ∧ (run arguments host).2 = host
  /-- All others are those of a command, which starts with nothing logged. -/
  governed : ∀ command, parse arguments = .ok command →
    Governed command host (run arguments host) (command.options.run command.binary { host with events := [] })

/-- Arguments come to what they ask for. -/
theorem disciplined (arguments : List (List UInt8)) (host : Host) : Disciplined arguments host where
  status := by
    -- Usage errors and commands that fail end with one, all else with zero.
    unfold run
    split
    · rename_i refusal _
      cases refusal with
      | usage error => exact .inr rfl
      | help => exact .inl rfl
      | version => exact .inl rfl
    · unfold runCommand
      dsimp only
      split
      · exact .inl rfl
      · exact .inr rfl
  rejected error faulty := by
    rw [run, faulty]
    exact ⟨rfl, rfl, rfl⟩
  answered asked := by
    obtain help | version := asked
    · rw [run, help]
      exact ⟨rfl, rfl⟩
    · rw [run, version]
      exact ⟨rfl, rfl⟩
  governed command read := by
    rw [run, read]
    exact governed command host

/-- Two hosts that differ in their logs and in the variable that holds a log filter alone. -/
structure SameButFilter (host other : Host) : Prop where
  tree : host.tree = other.tree
  here : host.workingDirectory = other.workingDirectory
  environment : host.environment.filter (·.1 ≠ filterVariable) = other.environment.filter (·.1 ≠ filterVariable)

/-- The external converter that some arguments come to start ignores the difference between two hosts. -/
def ToolIgnores (arguments : List (List UInt8)) (host other : Host) : Prop :=
  ∀ command config, parse arguments = .ok command → command.options.resolveConfig host = .ok config →
    config.converter = "xxd" →
      host.spawned (config.xxdPath.getD (External.programOf host)) [Utf8.encode "-i", command.binary.bytes] =
        other.spawned (config.xxdPath.getD (External.programOf host)) [Utf8.encode "-i", command.binary.bytes]

/-- The exit status, what was printed, and the tree. -/
def seen (run : Outcome × Host) : Nat × String × FileTree := (run.1.status, run.1.output, run.2.tree)

/-- A variable is looked up alike without another one. -/
theorem lookup_filter_ne {name variable' : String} (other : name ≠ variable')
    (environment : List (String × List UInt8)) :
    (environment.filter (·.1 ≠ variable')).lookup name = environment.lookup name := by
  -- The induction is on the variables; the one that is taken out is not the one that is looked up.
  induction environment with
  | nil => rfl
  | cons pair rest ih =>
    obtain ⟨first, value⟩ := pair
    by_cases same : first = variable'
    · have apart : (name == first) = false := by simpa [same] using other
      rw [List.filter_cons_of_neg (by simpa using same), ih, List.lookup_cons, apart]
    · rw [List.filter_cons_of_pos (by simpa using same), List.lookup_cons, List.lookup_cons, ih]

/-- The variable that holds a log filter does not name a program. -/
theorem SameButFilter.programOf_eq (same : SameButFilter host other) :
    External.programOf host = External.programOf other := by
  -- The program is named by a variable of another name.
  have apart : "XXD_BIN" ≠ filterVariable := by decide
  rw [External.programOf, External.programOf, Host.environmentValue?, Host.environmentValue?,
    ← lookup_filter_ne apart host.environment, ← lookup_filter_ne apart other.environment, same.environment]

/-- What is seen of a command is told by its result. -/
theorem seen_runCommand (command : CommandLine) (host : Host) :
    seen (runCommand command host) =
      (match (command.options.run command.binary { host with events := [] }).outcome with
        | .ok _ => 0
        | .error _ => 1,
        (command.options.run command.binary { host with events := [] }).printed,
        (command.options.run command.binary { host with events := [] }).host.tree) := by
  -- The end of a command adds to the log alone.
  unfold runCommand seen
  dsimp only
  cases (command.options.run command.binary { host with events := [] }).outcome <;> rfl

/-- One more request to say more is not seen. -/
theorem seen_louder {more : List (List UInt8)} (louder : Louder arguments more) (host : Host) :
    seen (run arguments host) = seen (run more host) := by
  have request := louder.sameRequest
  unfold run
  generalize parse arguments = one at request ⊢
  generalize parse more = another at request ⊢
  -- Of the two requests only the verbosity may differ, which is not seen, or the fault.
  cases request with
  | faulty error other => rfl
  | refused refusal => rfl
  | command binary options verbosity other =>
    dsimp only
    rw [seen_runCommand, seen_runCommand]

/-- Nor is any number of them. -/
theorem seen_alike {arguments' : List (List UInt8)} (alike : Relation.EqvGen Louder arguments arguments')
    (host : Host) : seen (run arguments host) = seen (run arguments' host) := by
  -- The induction is on how the one came from the other.
  induction alike with
  | rel one more louder => exact seen_louder louder host
  | refl => rfl
  | symm _ _ _ ih => exact ih.symm
  | trans _ _ _ _ _ ih ih' => exact ih.trans ih'

/-- The variable that holds a log filter is not seen. -/
theorem seen_other (same : SameButFilter host other) (ignores : ToolIgnores arguments host other) :
    seen (run arguments host) = seen (run arguments other) := by
  unfold run
  cases read : parse arguments with
  | error refusal => exact congrArg (fun tree => (_, _, tree)) same.tree
  | ok command =>
    -- Without their logs the two hosts are twins, and what is started leaves the same on both.
    have alike : Options.SameResult (command.options.run command.binary { host with events := [] })
        (command.options.run command.binary { other with events := [] }) := by
      refine Options.run_twin ⟨same.tree, same.here⟩ same.programOf_eq fun config resolved external => ?_
      rw [Host.spawned_with host, Host.spawned_with other]
      exact ignores command config read resolved external
    dsimp only
    rw [seen_runCommand, seen_runCommand, alike.outcome, alike.printed, alike.twin.tree]

/-- A host in whose root directory stand an image, and a program that prints the same dump in any case. -/
def toolHost (environment : List (String × List UInt8)) : Host where
  tree := ⟨[([Utf8.encode "image.bin"], .file [1] false), ([Utf8.encode "bin"], .directory),
    ([Utf8.encode "bin", Utf8.encode "sh"], .special .shell),
    ([Utf8.encode "tool"], .file (Utf8.encode "#!/bin/sh\necho 'x\n0x01\n\x7d;\nx'\n") true)]⟩
  workingDirectory := []
  environment := environment
  events := []

/-- Arguments that have a header made with that program. -/
def toolArguments : List (List UInt8) := [Utf8.encode "image.bin", Utf8.encode "--xxd", Utf8.encode "/tool"]

/-- The same arguments, with three requests to say more. -/
def loudArguments : List (List UInt8) :=
  [Utf8.encode "-vv", Utf8.encode "image.bin", Utf8.encode "--xxd", Utf8.encode "/tool", Utf8.encode "--verbose"]

end Program

end ImageHeader
