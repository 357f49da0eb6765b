import ImageHeader.Proofs.Generator.Fidelity
import ImageHeader.Proofs.Generator.Layout
import ImageHeader.Proofs.Header.Closing

/-! Closing policies: what a run does under one policy, compared with what it does under the other. -/

namespace ImageHeader

open FileTree

namespace Generator

variable {generator : Generator} {input : Path} {host holder after : Host} {opening : Opening}
  {transcript : Transcript} {tree : FileTree} {label dump : String} {place : Location}
  {report : Report} {error : GenerateError}

/-- What a run that succeeds logs at its end: a warning if the array is left open, and the header. -/
def finalEvents (generator : Generator) (report : Report) : List Log.Event :=
  (if report.closed = false ∧ report.appendedClose = false then [.unclosed generator.outputPath] else []) ++
    [.written generator.outputPath report.bodyLines]

section Logging

/-- Opening a path for writing logs nothing. -/
theorem events_of_create {path : Path} (created : host.create path = .ok (after, place)) :
    after.events = host.events := by
  unfold Host.create at created
  split at created
  · cases created
  · cases created
    rfl

/-- Storing bytes logs nothing. -/
theorem events_of_write {bytes : List UInt8} (written : host.write place bytes = .ok after) :
    after.events = host.events := by
  unfold Host.write at written
  split at written
  · cases written
  · cases written
    rfl

/-- Making room logs nothing. -/
theorem events_of_removeIfThere {path : Path} (removed : host.removeIfThere path = .ok after) :
    after.events = host.events := by
  obtain ⟨_, _, _, refused⟩ | ⟨_, _, cleared⟩ := host.removeIfThere_cases path
  · cases refused.symm.trans removed
  · cases cleared.symm.trans removed
    rfl

/-- Writing a header logs nothing. -/
theorem events_writeHeader : (generator.writeHeader label host).2.events = host.events := by
  simp only [writeHeader]
  -- Wherever it ends, the host has gone through no more than an opening and a write.
  split
  · rfl
  · split
    · rfl
    · rename_i created
      split
      · exact events_of_create created
      · rename_i written
        exact (events_of_write written).trans (events_of_create created)

/-- Storing a dump and writing its header logs nothing. -/
theorem events_storeAndWrite : (generator.storeAndWrite label dump place host).2.events = host.events := by
  -- None of the steps logs anything, whichever of them is the last.
  simp only [storeAndWrite]
  split
  · rfl
  · rename_i written
    split
    · exact events_of_write written
    · rename_i removed
      exact events_writeHeader.trans ((events_of_removeIfThere removed).trans (events_of_write written))

/-- The end of a run that succeeds tells whether the array was left open, and that the header was written. -/
theorem events_of_finish_ok (done : generator.finish input label transcript host = (.ok report, after)) :
    after.events = host.events ++ generator.finalEvents report := by
  simp only [finish] at done
  split at done
  · cases done
  · rename_i rest removed
    have quiet : rest.events =
        (if (!transcript.isClosed && !Header.needsArrayEnd generator.config transcript) = true then
          host.log (.unclosed generator.outputPath) else host).events := by
      unfold Host.remove at removed
      split at removed
      · cases removed
      · cases removed
        rfl
    cases done
    rw [Host.log, quiet, finalEvents]
    -- The report tells what the warning was decided on.
    cases transcript.isClosed <;> cases Header.needsArrayEnd generator.config transcript <;> simp [Host.log]

/-- A run that succeeds tells of the dump, of an array that was left open, and of the header. -/
theorem events_of_generateFrom_ok (done : generator.generateFrom input dump host = (.ok report, after)) :
    after.events = host.events ++
      .captured generator.dumper.name dump.utf8ByteSize generator.intermediatePath :: generator.finalEvents report := by
  simp only [generateFrom] at done
  split at done
  · cases done
  · rename_i holder place created
    -- Between the capture and the end nothing is logged.
    have stored := @events_storeAndWrite generator holder (inputLabel input) dump place
    split at done
    · cases done
    · rename_i transcript last writing
      rw [writing] at stored
      rw [events_of_finish_ok done, stored, events_of_create created, Host.log, List.append_assoc,
        List.singleton_append]

end Logging

/-- A run that fails after its file was opened has told of the dump only. -/
theorem events_of_generateFrom_error (opened : generator.opening? input host = some opening)
    (failed : generator.generateFrom input opening.dump opening.host = (.error error, after)) :
    after.events = opening.host.events ++
      [.captured generator.dumper.name opening.dump.utf8ByteSize generator.intermediatePath] := by
  obtain ⟨_, _, made, _, _, _, _, created⟩ := opening?_eq_some opened
  simp only [generateFrom, Host.create, Host.log, created] at failed
  generalize holds : Host.mk made _ _ _ = holder at failed
  have quiet := @events_storeAndWrite generator holder (inputLabel input) opening.dump opening.place
  obtain ⟨course, here⟩ := @storeAndWrite_course generator input host opening holder opened
    (by rw [← holds]) (by rw [← holds]; exact created)
  split at failed
  · rename_i cause last writing
    cases failed
    rw [writing] at quiet
    rw [Host.tryRemove_eq, quiet, ← holds]
  · -- With its header written a run does not fail any more.
    rename_i transcript last writing
    rw [writing] at course here
    obtain ⟨rest, removed⟩ := course.exists_removed opened
    have told := (@finish_swept generator input transcript last).1
    rw [failed, here, removed] at told
    cases told

/-- A run that fails has told of its dump, or of nothing that its dumper has not told of. -/
theorem events_of_generate_error (failed : generator.generate input host = (.error error, after)) :
    ∃ before, (before = host ∨ before = (generator.dumper.dump host input).2) ∧
      (after.events = before.events ∨
        ∃ name size path, after.events = before.events ++ [.captured name size path]) := by
  cases opened : generator.opening? input host with
  | some opening =>
    obtain ⟨_, _, _, _, _, _, dumped, _⟩ := opening?_eq_some opened
    rw [generate_of_opened opened] at failed
    exact ⟨opening.host, .inr (by rw [dumped]), .inr ⟨_, _, _, events_of_generateFrom_error opened failed⟩⟩
  | none =>
    obtain ⟨_, _, early⟩ := exists_early_of_unopened opened
    obtain ⟨_, rfl⟩ := Prod.mk.inj (failed.symm.trans (generate_of_early early))
    -- Only the last of the early ends comes after the dump.
    cases early with
    | homeless | homeless' | collides => exact ⟨_, .inl rfl, .inl rfl⟩
    | undumped _ _ _ _ _ _ _ dumped => exact ⟨_, .inr rfl, .inl (by rw [dumped])⟩
    | uncreated _ _ _ _ _ _ left _ dumped =>
      exact ⟨left, .inr (by rw [dumped]), .inr ⟨_, _, _, rfl⟩⟩

/-- A run has made its header around some lines: it reports their number, whether they close the array and whether a
closing line was added, and warns exactly if the array is left open. -/
structure Writes (generator : Generator) (input : Path) (host : Host) (dump : String) (kept : List Line)
    (header : List UInt8) (report : Report) (after : Host) : Prop where
  done : generator.generate input host = (.ok report, after)
  written : after.entryAt? generator.outputPath = some (.file header false)
  lines : report.bodyLines = kept.length
  closed : report.closed = endsClosed kept
  appended : report.appendedClose = (!endsClosed kept && generator.config.closing = .ensure)
  log : after.events = (generator.dumper.dump host input).2.events ++
    .captured generator.dumper.name dump.utf8ByteSize generator.intermediatePath :: generator.finalEvents report

/-- A run on a course to a header makes it around what could be read back of its dump. -/
theorem writes_of_course (opened : generator.opening? input host = some opening)
    (course : Course generator input opening (.ok transcript) tree) :
    ∃ report after, Writes generator input host opening.dump (interior opening.held)
      (Header.around generator.config (inputLabel input) (interior opening.held)) report after := by
  obtain ⟨_, _, _, _, _, _, dumped, _⟩ := opening?_eq_some opened
  obtain ⟨after, done⟩ := generate_of_course opened course
  obtain ⟨opening', opened', _, _, written⟩ := header_named_of_generate_ok dumped done
  -- The header was found for an opening, which is the only one of the run.
  obtain rfl := Option.some.inj (opened.symm.trans opened')
  obtain rfl : transcript = .ofLines (interior opening.held) := by
    cases course
    rfl
  refine ⟨_, after, done, written, rfl, Transcript.isClosed_ofLines _, Header.needsArrayEnd_ofLines _, ?_⟩
  rw [generate_of_opened opened] at done
  rw [events_of_generateFrom_ok done, dumped]

/-- A run that succeeds under one policy makes its header under every policy, around the same lines. -/
theorem exists_writes_of_ok {policy : ClosingPolicy}
    (done : (generator.withClosing policy).generate input host = (.ok report, after)) :
    ∃ opening, generator.opening? input host = some opening ∧ ∀ policy', ∃ report after,
      Writes (generator.withClosing policy') input host opening.dump (interior opening.held)
        (Header.around { generator.config with closing := policy' } (inputLabel input) (interior opening.held))
        report after := by
  -- The policy has no part in how a file is opened.
  obtain ⟨opening, opened⟩ := exists_opened_of_ok done
  obtain ⟨result, tree, course, told, _⟩ := generate_course opened
  rw [done] at told
  refine ⟨opening, opened, fun policy' => ?_⟩
  cases course with
  | refused | kept | lost | blocked => cases told
  | written taken clears finding making =>
    -- Nor has it in the course up to the header.
    exact @writes_of_course (generator.withClosing policy') input host opening _ _ opened
      (.written taken clears finding making)

/-- A run that fails warns of no array that was left open. -/
theorem warned_before_of_generate_error {path : Path}
    (failed : generator.generate input host = (.error error, after)) (warned : .unclosed path ∈ after.events) :
    .unclosed path ∈ host.events ∨ .unclosed path ∈ (generator.dumper.dump host input).2.events := by
  obtain ⟨before, origin, told⟩ := events_of_generate_error failed
  -- What was told of the dump is no warning.
  have earlier : .unclosed path ∈ before.events := by
    obtain same | ⟨_, _, _, same⟩ := told
    · rwa [same] at warned
    · rw [same] at warned
      simpa using warned
  obtain rfl | rfl := origin
  · exact .inl earlier
  · exact .inr earlier

/-- The closing policy makes a difference of one line at most. A copied line is never broken off, so no line has to be
ended before a closing one. If a run succeeds under one policy, it does so under both: the two headers are made around
the same ended lines, and differ by a closing line before the end of the guard, which is there if and only if it was
asked for and those lines do not close the array; both reports tell the same lines and whether they close it; and a
warning is logged exactly if they do not and no closing line was added. A run that fails warns of nothing. -/
theorem closing_inserts_line :
    (∀ source sink copied rest, Transcript.ofSource source sink = (.ok copied, rest) →
      (copied.last.isSome && !copied.endsWithLineEnd) = false) ∧
    (∀ policy report after, (generator.withClosing policy).generate input host = (.ok report, after) →
      ∃ dump kept verbatim ensured plain closing left left',
        (kept = interior (Utf8.encode dump) ∨ kept = [] ∧ ∃ kind,
          (generator.dumper.dump host input).2.target? generator.intermediatePath = some (.special kind)) ∧
        (∀ line ∈ kept, line.getLast? = some lineEnd) ∧
        (generator.dumper.dump host input).1 = .ok dump ∧
        Writes (generator.withClosing .verbatim) input host dump kept verbatim plain left ∧
        Writes (generator.withClosing .ensure) input host dump kept ensured closing left' ∧
        Header.ClosedAfter kept verbatim ensured) ∧
    ∀ policy error after, (generator.withClosing policy).generate input host = (.error error, after) →
      ∀ path, .unclosed path ∈ after.events →
        .unclosed path ∈ host.events ∨ .unclosed path ∈ (generator.dumper.dump host input).2.events := by
  refine ⟨fun _ _ _ _ done => Transcript.unbroken_of_ofSource done, fun policy report after done => ?_,
    fun policy error after failed path warned => ?_⟩
  · obtain ⟨opening, opened, writes⟩ := exists_writes_of_ok done
    obtain ⟨plain, left, first⟩ := writes .verbatim
    obtain ⟨closing, left', second⟩ := writes .ensure
    obtain ⟨_, _, _, _, _, _, dumped, _⟩ := opening?_eq_some opened
    refine ⟨opening.dump, interior opening.held, _, _, plain, closing, left, left', ?_,
      fun line => getLast?_of_mem_interior, by rw [dumped], first, second,
      Header.closedAfter_around generator.config (inputLabel input) opening.held⟩
    -- A device gives nothing of the dump back.
    obtain whole | ⟨nothing, device⟩ := Opening.held_or_device opened
    · exact .inl (by rw [whole])
    · refine .inr ⟨by rw [nothing]; rfl, ?_⟩
      rw [dumped]
      exact device
  · -- The dumper is the same under every policy.
    have before := warned_before_of_generate_error failed warned
    exact before

/-- A dump of three lines leaves the array open: the closing line is inserted where it is asked for, and a warning is
logged where it is not. -/
theorem closing_inserts_line_open :
    (∃ report after, (threeLines.withClosing .verbatim).generate ⟨[0x61]⟩ ⟨.empty, [], [], []⟩ = (.ok report, after)) ∧
      ∃ front verbatim ensured report report' after after',
        (threeLines.withClosing .verbatim).generate ⟨[0x61]⟩ ⟨.empty, [], [], []⟩ = (.ok report, after) ∧
        (threeLines.withClosing .ensure).generate ⟨[0x61]⟩ ⟨.empty, [], [], []⟩ = (.ok report', after') ∧
        after.entryAt? threeLines.outputPath = some (.file verbatim false) ∧
        after'.entryAt? threeLines.outputPath = some (.file ensured false) ∧
        linesOf verbatim = front ++ [Header.lineOf "#endif"] ∧
        linesOf ensured = front ++ [Header.lineOf "\x7d;", Header.lineOf "#endif"] ∧
        .unclosed threeLines.outputPath ∈ after.events ∧ .unclosed threeLines.outputPath ∉ after'.events := by
  have done : (threeLines.withClosing .verbatim).generate ⟨[0x61]⟩ ⟨.empty, [], [], []⟩ =
      (.ok ((threeLines.withClosing .verbatim).report ⟨[0x61]⟩ "x\n0x01\ny\n"),
        ((threeLines.withClosing .verbatim).generate ⟨[0x61]⟩ ⟨.empty, [], [], []⟩).2) := by
    rfl
  obtain ⟨dump, kept, verbatim, ensured, report, report', after, after', source, _, dumped, first, second, closed⟩ :=
    (@closing_inserts_line threeLines ⟨[0x61]⟩ ⟨.empty, [], [], []⟩).2.1 .verbatim _ _ done
  obtain rfl : "x\n0x01\ny\n" = dump := Except.ok.inj dumped
  -- Whether the dump was kept or swallowed, nothing in it closes the array.
  have open_ : endsClosed kept = false := by
    obtain rfl | ⟨rfl, _⟩ := source <;> decide
  obtain ⟨front, plain, inserted⟩ := closed.inserted open_
  have warns : report.closed = false ∧ report.appendedClose = false :=
    ⟨first.closed.trans open_, first.appended.trans (by rw [open_]; rfl)⟩
  have quiet : report'.appendedClose = true := second.appended.trans (by rw [open_]; rfl)
  refine ⟨⟨_, _, done⟩, front, verbatim, ensured, report, report', after, after', first.done, second.done,
    first.written, second.written, plain, inserted, ?_, ?_⟩
  · rw [first.log, finalEvents, if_pos warns]
    exact List.mem_append_right _ (List.mem_cons_of_mem _ List.mem_cons_self)
  · rw [second.log, finalEvents, if_neg (by simp [quiet])]
    simp [threeLines, Dumper.canned, withClosing]

end Generator

end ImageHeader
