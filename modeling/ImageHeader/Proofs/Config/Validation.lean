import ImageHeader.Config

/-! Validation: what is known of a configuration that passed the check. -/

namespace ImageHeader

/-- Every character of an identifier may go on with one. -/
theorem continuesIdentifier_of_mem {text : String} (identifier : isIdentifier text = true) :
    ∀ char ∈ text.toList, continuesIdentifier char = true := by
  unfold isIdentifier at identifier
  intro char member
  cases chars : text.toList with
  | nil => simp [chars] at member
  | cons first rest =>
    rw [chars] at identifier member
    simp only [Bool.and_eq_true, List.all_eq_true] at identifier
    obtain ⟨opens, goes⟩ := identifier
    obtain rfl | inside := List.mem_cons.mp member
    · -- Whatever may open an identifier may also stand inside.
      simp only [opensIdentifier, Bool.or_eq_true] at opens
      simp only [continuesIdentifier, Char.isAlphanum, Bool.or_eq_true]
      exact opens.imp .inl id
    · exact goes char inside

namespace Config

/-- A configuration is valid exactly if each of its conditions holds. -/
theorem validate_eq_ok {config : Config} : config.validate = .ok () ↔
    isIdentifier config.guard = true ∧ isIdentifier config.symbol = true ∧
      Blank.trim config.elementType ≠ "" ∧ Blank.trim config.included ≠ "" ∧
      config.output.isEmpty = false ∧ config.intermediate.isEmpty = false ∧
      config.output.essentialComponents ≠ config.intermediate.essentialComponents := by
  -- The conditions are asked for one after the other, and each failure is a flaw.
  unfold validate flaw?
  grind

/-- A condition that a configuration does not meet, whatever else is wrong with it. -/
inductive Violates (config : Config) : Flaw → Prop
  | guard (other : isIdentifier config.guard = false) : Violates config (.guard config.guard)
  | symbol (other : isIdentifier config.symbol = false) : Violates config (.symbol config.symbol)
  | elementType (blank : Blank.trim config.elementType = "") : Violates config .elementType
  | included (blank : Blank.trim config.included = "") : Violates config .included
  | pathMissing (missing : config.output.isEmpty = true ∨ config.intermediate.isEmpty = true) :
      Violates config .pathMissing
  | samePath (same : config.output.essentialComponents = config.intermediate.essentialComponents) :
      Violates config (.samePath config.output)

/-- The order of the conditions: guard, symbol, element type, include, paths that are there, paths that differ. -/
def Flaw.rank : Flaw → Nat
  | .guard _ => 0
  | .symbol _ => 1
  | .elementType => 2
  | .included => 3
  | .pathMissing => 4
  | .samePath _ => 5

section Flaws

variable {config : Config} {flaw other : Flaw}

/-- A configuration violates at most one condition at each place of the order. -/
theorem Violates.eq_of_rank (violates : config.Violates flaw) (violates' : config.Violates other)
    (same : flaw.rank = other.rank) : flaw = other := by
  -- Each condition has a place of its own, and its text is told by the configuration.
  cases violates <;> cases violates' <;> simp_all [Flaw.rank]

/-- The flaw that the check finds is one, and no condition before it is violated. -/
theorem first_of_flaw? (found : config.flaw? = some flaw) :
    config.Violates flaw ∧ ∀ other, config.Violates other → flaw.rank ≤ other.rank := by
  unfold flaw? at found
  -- Each condition is asked for when those before it are met.
  split at found
  · rename_i guard
    cases found
    exact ⟨.guard (by simpa using guard), fun _ _ => Nat.zero_le _⟩
  · rename_i guard
    split at found
    · rename_i symbol
      cases found
      refine ⟨.symbol (by simpa using symbol), fun other violates => ?_⟩
      cases violates <;> simp_all [Flaw.rank]
    · rename_i symbol
      split at found
      · rename_i elementType
        cases found
        refine ⟨.elementType elementType, fun other violates => ?_⟩
        cases violates <;> simp_all [Flaw.rank]
      · rename_i elementType
        split at found
        · rename_i included
          cases found
          refine ⟨.included included, fun other violates => ?_⟩
          cases violates <;> simp_all [Flaw.rank]
        · rename_i included
          split at found
          · rename_i missing
            cases found
            refine ⟨.pathMissing (by simpa using missing), fun other violates => ?_⟩
            cases violates <;> simp_all [Flaw.rank]
          · rename_i there
            split at found
            · rename_i same
              cases found
              refine ⟨.samePath same, fun other violates => ?_⟩
              cases violates <;> simp_all [Flaw.rank]
            · cases found

/-- A configuration without a flaw meets every condition. -/
theorem flaw?_eq_none : config.flaw? = none ↔ ∀ flaw, ¬config.Violates flaw := by
  constructor
  · -- What was checked is that each condition holds.
    intro none flaw violates
    have valid : config.validate = .ok () := by rw [validate, none]
    obtain ⟨guard, symbol, elementType, included, output, intermediate, apart⟩ := validate_eq_ok.mp valid
    cases violates <;> simp_all
  · intro meets
    cases found : config.flaw? with
    | none => rfl
    | some flaw => exact absurd (first_of_flaw? found).1 (meets flaw)

/-- The check finds a flaw exactly if its condition is the first one in the order that is violated. -/
theorem flaw?_eq_some : config.flaw? = some flaw ↔
    config.Violates flaw ∧ ∀ other, config.Violates other → flaw.rank ≤ other.rank := by
  refine ⟨first_of_flaw?, fun ⟨violates, least⟩ => ?_⟩
  cases found : config.flaw? with
  | none => exact absurd violates (flaw?_eq_none.mp found flaw)
  | some other =>
    obtain ⟨violates', least'⟩ := first_of_flaw? found
    -- Of two first violations each comes before the other one.
    have same : other.rank = flaw.rank :=
      Nat.le_antisymm (least' flaw violates) (least other violates')
    rw [violates'.eq_of_rank violates same]

/-- A configuration is refused with its flaw, and with nothing else. -/
theorem validate_eq_error {error : ConfigError} :
    config.validate = .error error ↔ ∃ flaw, config.flaw? = some flaw ∧ error = .invalid flaw := by
  -- The check does nothing but look for a flaw.
  unfold validate
  cases config.flaw? with
  | none => simp
  | some flaw => simp [eq_comm]

end Flaws

end Config

end ImageHeader
