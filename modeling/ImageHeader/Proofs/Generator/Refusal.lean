import ImageHeader.Proofs.Config.Validation
import ImageHeader.Proofs.Generator.Collision
import ImageHeader.Proofs.Path.Parts

/-! Refusals: a pair of paths that no configuration may have is one that no generator takes, wherever it is placed. -/

namespace ImageHeader

/-- A configuration that is refused for its paths has the same parts in both. -/
theorem Config.same_of_validate {config : Config} {path : Path}
    (refused : config.validate = .error (.invalid (.samePath path))) :
    config.output.essentialComponents = config.intermediate.essentialComponents := by
  obtain ⟨flaw, found, told⟩ := validate_eq_error.mp refused
  cases told
  -- What is told is a violation, and of this kind there is one only.
  cases (flaw?_eq_some.mp found).1 with
  | samePath same => exact same

namespace Generator

variable {config : Config} {dumper : Dumper} {input : Path} {host : Host}

/-- Placing a generator leaves its configuration. -/
theorem config_foldl_inDirectory (generator : Generator) (directories : List Path) :
    (directories.foldl inDirectory generator).config = generator.config := by
  induction directories generalizing generator with
  | nil => rfl
  | cons directory rest ih => exact ih (generator.inDirectory directory)

/-- A generator whose two paths have the same parts reports a collision, whatever its dumper and its image are, and
nothing else is done. -/
theorem collides_of_same_parts (generator : Generator)
    (same : generator.config.output.essentialComponents = generator.config.intermediate.essentialComponents)
    (standing : host.tree.lookup host.workingDirectory = some .directory) :
    ∃ place, host.lexicalLocation generator.outputPath = .ok place ∧
      ∀ dumper input, ({ generator with dumper := dumper }).generate input host =
        (.error (.collision (Path.ofLocation place)), host) := by
  -- The two paths still have the same parts below the base directory and the working directory.
  have alike := Host.lexicalLocation_congr (essentialComponents_resolve same generator) host
  have spells : ∃ place, host.lexicalLocation generator.outputPath = .ok place := by
    unfold Host.lexicalLocation Host.currentDirectory
    rw [if_pos standing]
    split <;> exact ⟨_, rfl⟩
  obtain ⟨place, spelled⟩ := spells
  have spelled' : host.lexicalLocation generator.intermediatePath = .ok place := alike.symm.trans spelled
  refine ⟨place, spelled, fun dumper input => ?_⟩
  -- Neither path depends on the dumper.
  exact generate_of_same_place spelled spelled'

/-- Two paths that a configuration may not have because they are one are refused as a collision by each generator with
it, below whatever directories that is placed, and then neither the dumper is asked nor anything else is done. So a
generator that reports no collision has two paths that differ for the check of its configuration as well. -/
theorem collides_of_refused (config : Config) (dumper : Dumper) (directories : List Path)
    (standing : host.tree.lookup host.workingDirectory = some .directory) :
    let generator := directories.foldl inDirectory ⟨config, dumper, none⟩
    (∀ path, config.validate = .error (.invalid (.samePath path)) →
      ∃ place, host.lexicalLocation generator.outputPath = .ok place ∧
        ∀ dumper input, ({ generator with dumper := dumper }).generate input host =
          (.error (.collision (Path.ofLocation place)), host)) ∧
    ∀ input, (∀ path, (generator.generate input host).1 ≠ .error (.collision path)) →
      config.output.essentialComponents ≠ config.intermediate.essentialComponents ∧
        ∀ path, config.validate ≠ .error (.invalid (.samePath path)) := by
  intro generator
  -- However often a directory is given, the configuration stays.
  have kept : generator.config = config := config_foldl_inDirectory _ directories
  have collides (same : config.output.essentialComponents = config.intermediate.essentialComponents) :=
    collides_of_same_parts generator (kept ▸ same) standing
  constructor
  · intro path refused
    exact collides (Config.same_of_validate refused)
  · intro input taken
    have apart : config.output.essentialComponents ≠ config.intermediate.essentialComponents := by
      intro same
      obtain ⟨place, _, told⟩ := collides same
      exact taken _ (congrArg Prod.fst (told generator.dumper input))
    exact ⟨apart, fun path refused => apart (Config.same_of_validate refused)⟩

/-- A configuration with two spellings of one path. -/
def twice : Config := { output := .ofText "./sub//../h.h", intermediate := .ofText "sub/./../h.h/." }

/-- The two spellings are refused by the check, and by a generator that is placed twice. -/
theorem collides_of_refused_twice :
    nestedHost.tree.lookup nestedHost.workingDirectory = some .directory ∧
      twice.validate = .error (.invalid (.samePath twice.output)) ∧
      ∀ dumper input, (([.ofText "/x", .ofText "../b/c/.."].foldl inDirectory
          ⟨twice, dumper, none⟩).generate input nestedHost) =
        (.error (.collision (.ofText "/b/h.h")), nestedHost) := by
  have standing : nestedHost.tree.lookup nestedHost.workingDirectory = some .directory := by decide
  have refused : twice.validate = .error (.invalid (.samePath twice.output)) := by decide
  refine ⟨standing, refused, fun dumper input => ?_⟩
  obtain ⟨place, spelled, told⟩ := (@collides_of_refused nestedHost twice dumper
    [.ofText "/x", .ofText "../b/c/.."] standing).1 _ refused
  -- The second directory counts, and from the working directory on.
  have at_ : place = [Utf8.encode "b", Utf8.encode "h.h"] := by
    have spells : nestedHost.lexicalLocation ((Path.ofText "../b/c/..").join twice.output) =
        .ok [Utf8.encode "b", Utf8.encode "h.h"] := by decide
    exact Except.ok.inj (spelled.symm.trans spells)
  subst at_
  exact told dumper input

end Generator

end ImageHeader
