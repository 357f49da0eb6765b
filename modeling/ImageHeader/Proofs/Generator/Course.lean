import ImageHeader.Proofs.Generator.Run

/-! Courses: what a run makes of its tree up to its clean-up, on files and on devices alike. -/

namespace ImageHeader

open FileTree

namespace Generator

variable {generator : Generator} {input : Path} {host after : Host} {opening : Opening}
  {report : Report} {made : FileTree}

namespace Opening

/-- The dump is refused: it is to go to a device that has no room for it. -/
def Refused (opening : Opening) : Prop :=
  opening.host.tree.lookup opening.place = some (.special .full) ∧ Utf8.encode opening.dump ≠ []

/-- What can be read back of a dump: a device keeps nothing of it. -/
def held (opening : Opening) : List UInt8 :=
  match opening.host.tree.lookup opening.place with
  | some (.special _) => []
  | _ => Utf8.encode opening.dump

/-- The tree once the dump was handed over: a device takes it without a change. -/
def holding (opening : Opening) : FileTree :=
  match opening.host.tree.lookup opening.place with
  | some (.special _) => opening.host.tree
  | _ => opening.stored

/-- A device is handed the dump and keeps nothing; anything else stores it. -/
theorem held_cases (opening : Opening) :
    (∃ kind, opening.host.tree.lookup opening.place = some (.special kind) ∧
        opening.held = [] ∧ opening.holding = opening.host.tree) ∨
      (opening.Regular ∧ opening.held = Utf8.encode opening.dump ∧
        opening.holding = opening.stored) := by
  -- A device keeps nothing of what is stored, and is left as it is.
  unfold held holding
  split
  · rename_i kind device
    exact .inl ⟨kind, device, rfl, rfl⟩
  · rename_i other
    exact .inr ⟨other, rfl, rfl⟩

/-- Handing the dump over brings no directory and no link into the tree. -/
theorem holding_within (opening : Opening) : opening.holding.Within opening.host.tree := by
  obtain ⟨_, _, _, same⟩ | ⟨_, _, same⟩ := opening.held_cases
  · rw [same]
    exact Within.refl _
  · rw [same]
    exact set_file_within

/-- Handing the dump over changes no other place. -/
theorem lookup_holding {other : Location} (apart : other ≠ opening.place) :
    opening.holding.lookup other = opening.host.tree.lookup other := by
  obtain ⟨_, _, _, same⟩ | ⟨_, _, same⟩ := opening.held_cases
  · rw [same]
  · rw [same]
    exact lookup_set_of_ne apart

end Opening

/-- Handing the dump over takes no directory and no link out of the tree. -/
theorem Opening.within_holding (opened : generator.opening? input host = some opening) :
    opening.host.tree.Within opening.holding := by
  obtain ⟨_, _, _, same⟩ | ⟨_, _, same⟩ := opening.held_cases
  · rw [same]
    exact Within.refl _
  · rw [same]
    exact (Opening.shut_place opened).within_set_file

/-- The intermediate path leads to what was opened, and what can be read there is what was kept of the dump. -/
theorem Opening.leads_holding (opened : generator.opening? input host = some opening) :
    opening.holding.leads? opening.host.workingDirectory generator.intermediatePath =
        some opening.place ∧
      ∃ entry, opening.holding.lookup opening.place = some entry ∧ entry.content = .ok opening.held := by
  obtain ⟨_, _, _, _, _, _, _, created⟩ := opening?_eq_some opened
  have shut := Opening.shut_place opened
  -- A device stands where it stood, and a file where it was made.
  obtain ⟨_, device, nothing, same⟩ | ⟨_, whole, same⟩ := opening.held_cases
  · rw [same, nothing]
    exact ⟨Opening.leads_place opened, _, device, rfl⟩
  · rw [same, whole]
    exact ⟨leads?_of_create created shut, _, lookup_set_self shut.ne_root, rfl⟩

/-- Unless it is refused, writing the dump to what was opened gives the tree that holds it. -/
theorem Opening.write_made
    (created : opening.host.tree.create opening.host.workingDirectory generator.intermediatePath =
      .ok (made, opening.place)) :
    ¬opening.Refused ∧ made.write opening.place (Utf8.encode opening.dump) = .ok opening.holding ∨
      opening.Refused ∧ made = opening.holding ∧
        ∃ cause, made.write opening.place (Utf8.encode opening.dump) = .error cause := by
  obtain ⟨kind, device, _, same⟩ | ⟨regular, _, same⟩ := opening.held_cases
  · -- Opening a device leaves the tree as it is, and so does writing to one.
    obtain rfl : made = opening.host.tree := by
      obtain ⟨_, _, _, _, ⟨free, _⟩ | ⟨_, _, file, _⟩ | ⟨_, _, same⟩⟩ := create_eq_ok created
      · cases device.symm.trans free
      · cases device.symm.trans file
      · exact same
    rw [same, Opening.Refused, FileTree.write, device]
    cases kind with
    | null => exact .inl ⟨by simp, rfl⟩
    | shell => exact .inl ⟨by simp, rfl⟩
    | full =>
      by_cases nothing : Utf8.encode opening.dump = []
      · exact .inl ⟨by simp [nothing], if_pos nothing⟩
      · exact .inr ⟨⟨rfl, nothing⟩, rfl, _, if_neg nothing⟩
  · -- The file that was made takes the dump.
    obtain ⟨shut, rfl⟩ := set_of_create created regular
    refine .inl ⟨fun refused => regular _ refused.1, ?_⟩
    rw [write_file (lookup_set_self shut.ne_root), set_set, same]
    rfl

/-- The tree of a run before its clean-up, and whether its header was written. -/
inductive Course (generator : Generator) (input : Path) (opening : Opening) :
    Except GenerateError Transcript → FileTree → Prop
  /-- A device refused the dump. -/
  | refused {cause : IoError} (full : opening.Refused) :
      Course generator input opening (.error (.io generator.intermediatePath cause)) opening.holding
  /-- The old header cannot be removed. -/
  | kept {cause : IoError} (taken : ¬opening.Refused) (other : cause ≠ .notFound)
      (removing : opening.holding.remove opening.host.workingDirectory generator.outputPath =
        .error cause) :
      Course generator input opening (.error (.io generator.outputPath cause)) opening.holding
  /-- Room was made, and then the dump is not found again. -/
  | lost {cause : IoError} {tree : FileTree} (taken : ¬opening.Refused)
      (clears : Clears opening.holding opening.host.workingDirectory generator.outputPath tree)
      (finding : tree.find opening.host.workingDirectory generator.intermediatePath = .error cause) :
      Course generator input opening (.error (.io generator.intermediatePath cause)) tree
  /-- Room was made, and then no new header can be made. -/
  | blocked {cause : IoError} {tree : FileTree} (taken : ¬opening.Refused)
      (clears : Clears opening.holding opening.host.workingDirectory generator.outputPath tree)
      (finding : tree.find opening.host.workingDirectory generator.intermediatePath = .ok opening.place)
      (making : tree.create opening.host.workingDirectory generator.outputPath = .error cause) :
      Course generator input opening (.error (.io generator.outputPath cause)) tree
  /-- The header was written around what could be read back of the dump. -/
  | written {tree : FileTree} {spot : Location} (taken : ¬opening.Refused)
      (clears : Clears opening.holding opening.host.workingDirectory generator.outputPath tree)
      (finding : tree.find opening.host.workingDirectory generator.intermediatePath = .ok opening.place)
      (making : tree.create opening.host.workingDirectory generator.outputPath =
        .ok (tree.set spot (.file [] false), spot)) :
      Course generator input opening (.ok (.ofLines (interior opening.held)))
        (tree.set spot (.file
          (Header.around generator.config (inputLabel input) (interior opening.held)) false))

/-- Where room was made, writing the header follows the course of a run. -/
theorem writeHeader_course {cleared : Host} (opened : generator.opening? input host = some opening)
    (here : cleared.workingDirectory = opening.host.workingDirectory) (taken : ¬opening.Refused)
    (clears : Clears opening.holding opening.host.workingDirectory generator.outputPath cleared.tree) :
    Course generator input opening (generator.writeHeader (inputLabel input) cleared).1
        (generator.writeHeader (inputLabel input) cleared).2.tree ∧
      (generator.writeHeader (inputLabel input) cleared).2.workingDirectory =
        opening.host.workingDirectory := by
  obtain ⟨leads, entry, standing, content⟩ := Opening.leads_holding opened
  cases finding : cleared.find generator.intermediatePath with
  | error cause =>
    -- The way to the dump led through what was removed.
    rw [writeHeader_of_lost finding]
    rw [Host.find, here] at finding
    exact ⟨.lost taken clears finding, here⟩
  | ok found =>
    rw [Host.find, here] at finding
    obtain ⟨rfl, _, still⟩ := clears.leads?_of_find leads finding standing
    have hit : cleared.find generator.intermediatePath = .ok opening.place := by
      rw [Host.find, here]
      exact finding
    cases making : cleared.tree.create opening.host.workingDirectory generator.outputPath with
    | error cause =>
      have failed : cleared.create generator.outputPath = .error cause := by
        rw [Host.create, here, making]
      rw [writeHeader_of_blocked hit failed]
      exact ⟨.blocked taken clears finding making, here⟩
    | ok pair =>
      -- The new file comes to the free place that the output path names.
      obtain ⟨made, spot⟩ := pair
      obtain ⟨named, _, _, rfl⟩ := clears.create_eq making
      have read : (cleared.tree.entryAt opening.place).content = .ok opening.held := by
        rw [entryAt_of_lookup still, content]
      rw [writeHeader_eq_ok hit read (by rw [here]; exact making) (ne_root_of_named? named)]
      exact ⟨.written taken clears finding making, here⟩

/-- From the dump on, a run follows its course. -/
theorem storeAndWrite_course {holder : Host} (opened : generator.opening? input host = some opening)
    (here : holder.workingDirectory = opening.host.workingDirectory)
    (created : opening.host.tree.create opening.host.workingDirectory generator.intermediatePath =
      .ok (holder.tree, opening.place)) :
    Course generator input opening
        (generator.storeAndWrite (inputLabel input) opening.dump opening.place holder).1
        (generator.storeAndWrite (inputLabel input) opening.dump opening.place holder).2.tree ∧
      (generator.storeAndWrite (inputLabel input) opening.dump opening.place holder).2.workingDirectory =
        opening.host.workingDirectory := by
  unfold storeAndWrite Host.write
  obtain ⟨taken, stored⟩ | ⟨full, same, cause, refused⟩ := Opening.write_made created
  · simp only [stored]
    obtain ⟨cause, other, removing, refused⟩ | ⟨tree, clears, removed⟩ :=
      ({ holder with tree := opening.holding } : Host).removeIfThere_cases generator.outputPath
    · -- The old header stays, and with it all that is there.
      simp only [refused]
      rw [here] at removing
      exact ⟨.kept taken other removing, here⟩
    · simp only [removed]
      rw [here] at clears
      exact @writeHeader_course generator input _ opening { holder with tree := tree } opened here taken clears
  · -- A device that has no room refuses the dump.
    simp only [refused]
    rw [same]
    exact ⟨.refused full, here⟩

/-- The report on the header that a transcript tells of. -/
def reportOn (generator : Generator) (input : Path) (transcript : Transcript) : Report where
  input := input
  output := generator.outputPath
  label := inputLabel input
  converter := generator.dumper.name
  bodyLines := transcript.lines
  closed := transcript.isClosed
  appendedClose := Header.needsArrayEnd generator.config transcript

/-- The report on the kept lines of a dump is the report on the dump. -/
theorem reportOn_ofLines (dump : String) :
    generator.reportOn input (.ofLines (interior (Utf8.encode dump))) = generator.report input dump := by
  simp only [reportOn, report, Transcript.isClosed_ofLines, Header.needsArrayEnd_ofLines]
  rfl

/-- What a run gives back: what went wrong first, and its report if its intermediate file could be removed too. -/
def verdict (generator : Generator) (input : Path) (result : Except GenerateError Transcript)
    (removing : Except IoError FileTree) : Except GenerateError Report :=
  match result, removing with
  | .error error, _ => .error error
  | .ok _, .error cause => .error (.io generator.intermediatePath cause)
  | .ok transcript, .ok _ => .ok (generator.reportOn input transcript)

/-- Once its file is open, a run fails for reasons of the system only. -/
theorem Course.error_of_verdict {result : Except GenerateError Transcript} {tree : FileTree}
    {removing : Except IoError FileTree} {error : GenerateError}
    (course : Course generator input opening result tree)
    (failed : generator.verdict input result removing = .error error) :
    ∃ path cause, error = .io path cause := by
  cases course with
  | refused | kept | lost | blocked =>
    cases failed
    exact ⟨_, _, rfl⟩
  | written =>
    -- With its header written a run can only fail to remove its intermediate file.
    cases removing with
    | error cause =>
      cases failed
      exact ⟨_, _, rfl⟩
    | ok rest => cases failed

/-- The end of a run gives its verdict, and sweeps away what the intermediate path names. -/
theorem finish_swept (transcript : Transcript) (host : Host) :
    (generator.finish input (inputLabel input) transcript host).1 =
        generator.verdict input (.ok transcript)
          (host.tree.remove host.workingDirectory generator.intermediatePath) ∧
      (generator.finish input (inputLabel input) transcript host).2.tree =
        host.tree.swept host.workingDirectory generator.intermediatePath ∧
      (generator.finish input (inputLabel input) transcript host).2.workingDirectory =
        host.workingDirectory := by
  unfold finish
  dsimp only
  -- A warning may be logged first, which the tree does not show.
  have quiet := host.quiet_of_log (.unclosed generator.outputPath)
    (!transcript.isClosed && !Header.needsArrayEnd generator.config transcript)
  generalize (if (_ && _) = true then host.log _ else host) = warned at quiet ⊢
  rw [Host.remove, quiet.1, quiet.2, swept]
  cases host.tree.remove host.workingDirectory generator.intermediatePath with
  | error cause => exact ⟨rfl, quiet⟩
  | ok rest => exact ⟨rfl, rfl, rfl⟩

/-- Every run that opens its file follows a course, gives its verdict, and in the end sweeps away what the intermediate
path names. -/
theorem generate_course (opened : generator.opening? input host = some opening) :
    ∃ result tree, Course generator input opening result tree ∧
      (generator.generate input host).1 = generator.verdict input result
        (tree.remove opening.host.workingDirectory generator.intermediatePath) ∧
      (generator.generate input host).2.tree =
        tree.swept opening.host.workingDirectory generator.intermediatePath ∧
      (generator.generate input host).2.workingDirectory = opening.host.workingDirectory := by
  obtain ⟨_, _, made, _, _, _, _, created⟩ := opening?_eq_some opened
  rw [generate_of_opened opened]
  unfold generateFrom
  simp only [Host.create, Host.log, created]
  -- What is logged on the way is not seen in the tree.
  generalize holds : Host.mk made _ _ _ = holder
  obtain ⟨course, here⟩ := @storeAndWrite_course generator input host opening holder opened
    (by rw [← holds]) (by rw [← holds]; exact created)
  generalize generator.storeAndWrite (inputLabel input) opening.dump opening.place holder = left
    at course here
  obtain ⟨error | transcript, last⟩ := left
  · -- A run that fails sweeps what it has opened.
    simp only [Host.tryRemove_eq]
    exact ⟨_, _, course, rfl, by rw [here], here⟩
  · -- A run that comes to its end removes it as well.
    obtain ⟨told, swept_, stays⟩ := @finish_swept generator input transcript last
    rw [here] at told swept_
    exact ⟨_, _, course, told, swept_, stays.trans here⟩

/-- Once a header is written, sweeping away what the intermediate path names leaves it where the output path names
it. -/
theorem Course.header_named {transcript : Transcript} {tree : FileTree}
    (opened : generator.opening? input host = some opening)
    (course : Course generator input opening (.ok transcript) tree) :
    ∃ spot,
      (tree.swept opening.host.workingDirectory generator.intermediatePath).named?
          opening.host.workingDirectory generator.outputPath = some spot ∧
        (tree.swept opening.host.workingDirectory generator.intermediatePath).lookup spot =
          some (.file (Header.around generator.config (inputLabel input) (interior opening.held)) false) := by
  cases course with
  | @written cleared spot _ clears finding making =>
    obtain ⟨leads, entry, standing, _⟩ := Opening.leads_holding opened
    obtain ⟨_, leads, still⟩ := clears.leads?_of_find leads finding standing
    obtain ⟨_, named, free, _⟩ := clears.create_eq making
    have shut : cleared.Shut spot := Shut.of_free free
    have below : spot ≠ [] := ne_root_of_named? named
    -- What the header says does not matter here.
    generalize Header.around generator.config (inputLabel input) (interior opening.held) = content
    have named' : (cleared.set spot (.file content false)).named? opening.host.workingDirectory
        generator.outputPath = some spot :=
      (named?_set_file shut).trans named
    refine ⟨spot, ?_⟩
    obtain same | ⟨end_, ended, same⟩ := swept_eq (cleared.set spot (.file content false))
      opening.host.workingDirectory generator.intermediatePath
    · rw [same]
      exact ⟨named', lookup_set_self below⟩
    · rw [same]
      -- The header came to a free place, so it is not what held the dump or led to it.
      have apart : spot ≠ end_ := by
        rintro rfl
        rw [named?_set_file shut] at ended
        obtain same | ⟨target, link⟩ := named?_of_leads? ended leads
        · cases free.symm.trans (same ▸ still)
        · cases free.symm.trans link
      have within : (cleared.set spot (.file content false)).Within opening.host.tree :=
        (set_file_within.trans clears.within).trans opening.holding_within
      exact ⟨named?_erase_end ended (leads?_set_file leads shut)
          ((Opening.shut_place opened).of_within within) named',
        (lookup_erase_of_ne apart).trans (lookup_set_self below)⟩

/-- Once a header is written, the entry under which the dump was held can be removed. -/
theorem Course.exists_removed {transcript : Transcript} {tree : FileTree}
    (opened : generator.opening? input host = some opening)
    (course : Course generator input opening (.ok transcript) tree) :
    ∃ rest, tree.remove opening.host.workingDirectory generator.intermediatePath = .ok rest := by
  cases course with
  | @written cleared spot _ clears finding making =>
    generalize Header.around generator.config (inputLabel input) (interior opening.held) = content
    obtain ⟨_, _, _, _, _, _, _, created⟩ := opening?_eq_some opened
    obtain ⟨end_, named, _⟩ := named?_of_create created
    obtain ⟨leads, entry, standing, _⟩ := Opening.leads_holding opened
    obtain ⟨_, leads, still⟩ := clears.leads?_of_find leads finding standing
    -- What was named before the dump was handed over is named when room was made.
    have named := clears.named?_of_leads? (named?_within (Opening.within_holding opened) named) leads
    obtain ⟨_, _, free, _⟩ := clears.create_eq making
    have shut : cleared.Shut opening.place :=
      (Opening.shut_place opened).of_within (clears.within.trans opening.holding_within)
    -- It is the place of the dump or a link to it, and neither is a directory nor the place of the header.
    obtain ⟨found, there, solid⟩ : ∃ found, cleared.lookup end_ = some found ∧ found ≠ .directory := by
      obtain rfl | ⟨target, link⟩ := named?_of_leads? named leads
      · refine ⟨entry, still, ?_⟩
        rintro rfl
        exact shut.directory still
      · exact ⟨_, link, by simp⟩
    have apart : end_ ≠ spot := by
      rintro rfl
      cases free.symm.trans there
    exact ⟨_, remove_eq_ok.mpr ⟨end_, found, (named?_set_file (Shut.of_free free)).trans named,
      (lookup_set_of_ne apart).trans there, solid, rfl⟩⟩

/-- A course that ends with a header is the only one of its run. -/
theorem Course.eq_of_ok {result : Except GenerateError Transcript} {transcript : Transcript}
    {tree tree' : FileTree}
    (course : Course generator input opening (.ok transcript) tree)
    (course' : Course generator input opening result tree') : result = .ok transcript ∧ tree' = tree := by
  cases course with
  | written taken clears finding making =>
    -- Each step has one outcome only.
    cases course' with
    | refused full => exact absurd full taken
    | kept _ other removing => exact absurd clears (Clears.not_of_refused other removing)
    | lost _ clears' finding' =>
      obtain rfl := clears.unique clears'
      cases finding.symm.trans finding'
    | blocked _ clears' _ making' =>
      obtain rfl := clears.unique clears'
      cases making.symm.trans making'
    | written _ clears' _ making' =>
      obtain rfl := clears.unique clears'
      cases making.symm.trans making'
      exact ⟨rfl, rfl⟩

/-- A run that can be on a course to a header is on it, and succeeds. -/
theorem generate_of_course {transcript : Transcript} {tree : FileTree}
    (opened : generator.opening? input host = some opening)
    (course : Course generator input opening (.ok transcript) tree) :
    ∃ after, generator.generate input host = (.ok (generator.reportOn input transcript), after) := by
  obtain ⟨result, tree', course', told, _⟩ := generate_course opened
  obtain ⟨rfl, rfl⟩ := course.eq_of_ok course'
  obtain ⟨rest, removed⟩ := course.exists_removed opened
  rw [removed] at told
  exact ⟨_, Prod.ext told rfl⟩

/-- After a run that succeeds the output path names the header around what could be read back of the dump. -/
theorem header_named_of_generate_ok {between : Host} {dump : String}
    (dumped : generator.dumper.dump host input = (.ok dump, between))
    (done : generator.generate input host = (.ok report, after)) :
    ∃ opening, generator.opening? input host = some opening ∧ opening.dump = dump ∧
      opening.host = between ∧
      after.entryAt? generator.outputPath = some (.file
        (Header.around generator.config (inputLabel input) (interior opening.held)) false) := by
  obtain ⟨place, opened⟩ := exists_opening_of_ok dumped done
  obtain ⟨error | transcript, tree, course, told, rest, here⟩ := generate_course opened
  · -- The verdict on a failure is no report.
    cases (congrArg Prod.fst done).symm.trans told
  rw [done] at rest here
  obtain ⟨spot, named, standing⟩ := course.header_named opened
  rw [← rest, ← here] at named
  rw [← rest] at standing
  exact ⟨_, opened, rfl, rfl, (Host.entryAt?_of_named? named).trans standing⟩

end Generator

end ImageHeader
