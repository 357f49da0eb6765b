import ImageHeader.Generator

/-!
Influence: what of a host a run of the generator depends on.

Apart from its dumper a run sees the tree and the working directory of its host, but neither the environment nor what
was logged before.
-/

namespace ImageHeader

namespace Host

/-- Two hosts with the same tree and the same working directory. -/
structure Twin (host other : Host) : Prop where
  tree : host.tree = other.tree
  here : host.workingDirectory = other.workingDirectory

/-- Two attempts fail for the same cause, or succeed with what is alike. -/
def Attempt {α : Type} (Alike : α → α → Prop) (attempt attempt' : Except IoError α) : Prop :=
  (∃ cause, attempt = .error cause ∧ attempt' = .error cause) ∨
    ∃ made made', attempt = .ok made ∧ attempt' = .ok made' ∧ Alike made made'

/-- Two runs that come to the same result, and leave hosts that are twins. -/
structure SameRun {α : Type} (run run' : α × Host) : Prop where
  result : run.1 = run'.1
  twin : run.2.Twin run'.2

variable {host other : Host}

/-- What is logged does not matter. -/
theorem Twin.log (twin : host.Twin other) (event event' : Log.Event) : (host.log event).Twin (other.log event') :=
  ⟨twin.tree, twin.here⟩

/-- On twins a path spells the same place. -/
theorem Twin.lexicalLocation_eq (twin : host.Twin other) (path : Path) :
    host.lexicalLocation path = other.lexicalLocation path := by
  rw [lexicalLocation, lexicalLocation, currentDirectory, currentDirectory, twin.tree, twin.here]

/-- On twins a path stands for the same place. -/
theorem Twin.find_eq (twin : host.Twin other) (path : Path) : host.find path = other.find path := by
  rw [find, find, twin.tree, twin.here]

/-- On twins a path is opened for writing alike. -/
theorem Twin.create (twin : host.Twin other) (path : Path) :
    Attempt (fun made made' => made.1.Twin made'.1 ∧ made.2 = made'.2) (host.create path) (other.create path) := by
  -- Of a host only environment and log are left to differ, and neither is looked at.
  obtain ⟨tree, here, _, _⟩ := host
  obtain ⟨rfl, rfl⟩ := twin
  unfold Host.create
  cases other.tree.create other.workingDirectory path with
  | error cause => exact .inl ⟨cause, rfl, rfl⟩
  | ok made => exact .inr ⟨_, _, rfl, rfl, ⟨rfl, rfl⟩, rfl⟩

/-- On twins bytes are stored alike. -/
theorem Twin.write (twin : host.Twin other) (place : Location) (bytes : List UInt8) :
    Attempt Twin (host.write place bytes) (other.write place bytes) := by
  obtain ⟨tree, here, _, _⟩ := host
  obtain ⟨rfl, rfl⟩ := twin
  unfold Host.write
  -- Once the trees are the same, both attempts are the same attempt.
  cases other.tree.write place bytes with
  | error cause => exact .inl ⟨cause, rfl, rfl⟩
  | ok made => exact .inr ⟨_, _, rfl, rfl, rfl, rfl⟩

/-- On twins what a path names is removed alike. -/
theorem Twin.remove (twin : host.Twin other) (path : Path) :
    Attempt Twin (host.remove path) (other.remove path) := by
  obtain ⟨tree, here, _, _⟩ := host
  obtain ⟨rfl, rfl⟩ := twin
  unfold Host.remove
  -- Once trees and working directories are the same, both attempts are the same attempt.
  cases other.tree.remove other.workingDirectory path with
  | error cause => exact .inl ⟨cause, rfl, rfl⟩
  | ok made => exact .inr ⟨_, _, rfl, rfl, rfl, rfl⟩

/-- On twins room is made alike. -/
theorem Twin.removeIfThere (twin : host.Twin other) (path : Path) :
    Attempt Twin (host.removeIfThere path) (other.removeIfThere path) := by
  unfold Host.removeIfThere
  obtain ⟨cause, refused, refused'⟩ | ⟨left, left', removed, removed', same⟩ := twin.remove path
  · -- That nothing is there is no failure.
    rw [refused, refused']
    dsimp only
    split
    · exact .inr ⟨_, _, rfl, rfl, twin⟩
    · exact .inl ⟨cause, rfl, rfl⟩
  · rw [removed, removed']
    exact .inr ⟨_, _, rfl, rfl, same⟩

/-- On twins what a path names is cleared away alike. -/
theorem Twin.tryRemove (twin : host.Twin other) (path : Path) : (host.tryRemove path).Twin (other.tryRemove path) := by
  -- What cannot be removed is left as it is on both.
  unfold Host.tryRemove
  obtain ⟨cause, refused, refused'⟩ | ⟨left, left', removed, removed', same⟩ := twin.remove path
  · rw [refused, refused']
    exact twin
  · rw [removed, removed']
    exact same

end Host

namespace Generator

open Host (SameRun)

variable {generator : Generator} {host other : Host}

/-- On twins a header is written alike. -/
theorem writeHeader_twin (twin : host.Twin other) (label : String) :
    SameRun (generator.writeHeader label host) (generator.writeHeader label other) := by
  unfold writeHeader
  dsimp only
  rw [twin.find_eq, twin.tree]
  -- The dump is found, and read, at the same place on both.
  split
  · exact ⟨rfl, twin⟩
  · obtain ⟨cause, blocked, blocked'⟩ | ⟨⟨made, place⟩, ⟨made', _⟩, created, created', left, rfl⟩ :=
      twin.create generator.outputPath
    · rw [blocked, blocked']
      exact ⟨rfl, twin⟩
    · rw [created, created']
      dsimp only
      -- The header is made of the configuration, the label and the dump, and not of the host.
      generalize Header.write _ _ _ _ = header
      obtain ⟨cause, full, full'⟩ | ⟨after, after', stored, stored', same⟩ :=
        left.write place header.2.accepted.toList
      · rw [full, full']
        exact ⟨rfl, left⟩
      · rw [stored, stored']
        exact ⟨rfl, same⟩

/-- On twins a dump is stored and its header written alike. -/
theorem storeAndWrite_twin (twin : host.Twin other) (label dump : String) (place : Location) :
    SameRun (generator.storeAndWrite label dump place host) (generator.storeAndWrite label dump place other) := by
  -- There are three steps that may fail: storing, making room, and writing the header.
  unfold storeAndWrite
  obtain ⟨cause, full, full'⟩ | ⟨held, held', stored, stored', same⟩ := twin.write place (Utf8.encode dump)
  · rw [full, full']
    exact ⟨rfl, twin⟩
  · rw [stored, stored']
    dsimp only
    obtain ⟨cause, refused, refused'⟩ | ⟨free, free', cleared, cleared', same'⟩ :=
      same.removeIfThere generator.outputPath
    · rw [refused, refused']
      exact ⟨rfl, same⟩
    · rw [cleared, cleared']
      exact writeHeader_twin same' label

/-- On twins a run ends alike. -/
theorem finish_twin (twin : host.Twin other) (input : Path) (label : String) (transcript : Transcript) :
    SameRun (generator.finish input label transcript host) (generator.finish input label transcript other) := by
  unfold finish
  dsimp only
  -- The warning is logged in both runs or in none.
  have told : (if (!transcript.isClosed && !Header.needsArrayEnd generator.config transcript) = true then
      host.log (.unclosed generator.outputPath) else host).Twin
      (if (!transcript.isClosed && !Header.needsArrayEnd generator.config transcript) = true then
        other.log (.unclosed generator.outputPath) else other) := by
    split
    · exact twin.log _ _
    · exact twin
  obtain ⟨cause, refused, refused'⟩ | ⟨left, left', removed, removed', same⟩ := told.remove generator.intermediatePath
  · rw [refused, refused']
    exact ⟨rfl, told⟩
  · rw [removed, removed']
    exact ⟨rfl, same.log _ _⟩

/-- On twins a run goes on alike from a dump. -/
theorem generateFrom_twin (twin : host.Twin other) (input : Path) (dump : String) :
    SameRun (generator.generateFrom input dump host) (generator.generateFrom input dump other) := by
  unfold generateFrom
  dsimp only
  -- Telling of the dump leaves twins twins.
  have told := twin.log (.captured generator.dumper.name dump.utf8ByteSize generator.intermediatePath)
    (.captured generator.dumper.name dump.utf8ByteSize generator.intermediatePath)
  obtain ⟨cause, blocked, blocked'⟩ | ⟨⟨made, place⟩, ⟨made', _⟩, created, created', left, rfl⟩ :=
    told.create generator.intermediatePath
  · rw [blocked, blocked']
    exact ⟨rfl, told⟩
  · rw [created, created']
    dsimp only
    obtain ⟨result, same⟩ : SameRun (generator.storeAndWrite (inputLabel input) dump place made)
        (generator.storeAndWrite (inputLabel input) dump place made') := storeAndWrite_twin left _ _ _
    generalize generator.storeAndWrite (inputLabel input) dump place made = run at result same ⊢
    generalize generator.storeAndWrite (inputLabel input) dump place made' = run' at result same ⊢
    obtain ⟨ending, after⟩ := run
    obtain ⟨_, after'⟩ := run'
    -- Either both clear the intermediate away, or both go on to the end.
    cases result
    cases ending with
    | error error => exact ⟨rfl, same.tryRemove _⟩
    | ok transcript => exact finish_twin same _ _ _

/-- On twins on which its dumper runs alike, a run comes to the same. -/
theorem generate_twin (twin : host.Twin other) (input : Path)
    (dumps : SameRun (generator.dumper.dump host input) (generator.dumper.dump other input)) :
    SameRun (generator.generate input host) (generator.generate input other) := by
  unfold generate
  rw [twin.lexicalLocation_eq, twin.lexicalLocation_eq]
  -- Where the two paths lead is the same on twins, so both collide or neither does.
  split
  · exact ⟨rfl, twin⟩
  · split
    · exact ⟨rfl, twin⟩
    · split
      · exact ⟨rfl, twin⟩
      · -- From here on the dumper decides, which runs alike.
        obtain ⟨result, same⟩ := dumps
        generalize generator.dumper.dump host input = run at result same ⊢
        generalize generator.dumper.dump other input = run' at result same ⊢
        obtain ⟨ending, after⟩ := run
        obtain ⟨_, after'⟩ := run'
        cases result
        cases ending with
        | error error => exact ⟨rfl, same⟩
        | ok dump => exact generateFrom_twin same input dump

end Generator

end ImageHeader
