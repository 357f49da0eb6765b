import ImageHeader.FileTree.Access

/-! Routes: the walks that succeed, as a relation, and what a tree must keep for a route to stay. -/

namespace ImageHeader

/-- The steps after the last name of a path. -/
def Step.ending (slashed : Bool) : List Step := if slashed then [.slash] else []

/-- Whether only the end of a path is left. -/
def Step.AtEnd (rest : List Step) : Prop := ∃ slashed, rest = Step.ending slashed

/-- Steps that end a path end it in each of their parts. -/
theorem Step.AtEnd.of_append {first rest : List Step} (ended : AtEnd (first ++ rest)) : AtEnd first ∧ AtEnd rest := by
  obtain ⟨slashed, same⟩ := ended
  -- A slash that is left belongs to one of the two parts.
  cases slashed with
  | false =>
    obtain ⟨rfl, rfl⟩ := List.append_eq_nil_iff.mp same
    exact ⟨⟨false, rfl⟩, ⟨false, rfl⟩⟩
  | true =>
    rcases List.append_eq_singleton_iff.mp same with ⟨rfl, rfl⟩ | ⟨rfl, rfl⟩
    · exact ⟨⟨false, rfl⟩, ⟨true, rfl⟩⟩
    · exact ⟨⟨true, rfl⟩, ⟨false, rfl⟩⟩

/-- Steps are not at the end if the last of them are not. -/
theorem Step.not_atEnd_append {rest : List Step} (midway : ¬AtEnd rest) (first : List Step) :
    ¬AtEnd (first ++ rest) :=
  fun ended => midway ended.of_append.2

/-- Whether a walk follows a link after which some steps are left: on the way always, at the end as its purpose says. -/
def Purpose.Follows (purpose : Purpose) (rest : List Step) : Prop :=
  Step.AtEnd rest → purpose = .opening ∨ purpose = .creating ∧ rest = []

/-- Steps that lead from a directory to a spot, where at most `links` links are followed on the way. -/
inductive FileTree.Route (tree : FileTree) (purpose : Purpose) :
    Nat → Location → List Step → Spot → Prop
  | stop {links here} : Route tree purpose links here [] (.directory here)
  | stay {links here rest spot} (onward : Route tree purpose links here rest spot) :
      Route tree purpose links here (.stay :: rest) spot
  | slash {links here rest spot} (onward : Route tree purpose links here rest spot) :
      Route tree purpose links here (.slash :: rest) spot
  | up {links here rest spot} (onward : Route tree purpose links here.dropLast rest spot) :
      Route tree purpose links here (.up :: rest) spot
  | arrive {links here name slashed} (short : name.length ≤ Path.nameLimit)
      (open_ : purpose = .creating → slashed = false)
      (solid : purpose ≠ .removing → ∀ target, tree.lookup (here ++ [name]) ≠ some (.link target)) :
      Route tree purpose links here (.enter name :: Step.ending slashed) (.named here name slashed)
  | enter {links here name rest spot} (short : name.length ≤ Path.nameLimit)
      (midway : ¬Step.AtEnd rest) (found : tree.lookup (here ++ [name]) = some .directory)
      (onward : Route tree purpose links (here ++ [name]) rest spot) :
      Route tree purpose links here (.enter name :: rest) spot
  | follow {links here name target rest spot} (short : name.length ≤ Path.nameLimit)
      (follows : purpose.Follows rest) (found : tree.lookup (here ++ [name]) = some (.link target))
      (onward : Route tree purpose links (target.origin here) (target.steps ++ rest) spot) :
      Route tree purpose (links + 1) here (.enter name :: rest) spot

namespace FileTree

variable {tree other : FileTree} {purpose : Purpose} {links : Nat} {here : Location}
  {steps rest : List Step} {spot : Spot}

/-- A name of admitted length has no fault. -/
theorem nameFault?_eq_none {name : Name} :
    tree.nameFault? here name = none ↔ name.length ≤ Path.nameLimit := by
  unfold nameFault?
  by_cases short : name.length ≤ Path.nameLimit
  · simp [short]
  · -- A name that is too long is a fault in a directory and elsewhere.
    by_cases lively : tree.lookup here = some .directory <;> simp [short, lively]

/-- On the way, a name must be a directory to go on in, or a link to follow. -/
theorem descend_enter (tree : FileTree) (purpose : Purpose) (here : Location) (name : Name)
    {rest : List Step} (midway : ¬Step.AtEnd rest) :
    tree.descend purpose here (.enter name :: rest) =
      match tree.nameFault? here name, tree.lookup (here ++ [name]) with
      | some error, _ => .error error
      | none, none => .error .notFound
      | none, some .directory => tree.descend purpose (here ++ [name]) rest
      | none, some (.link target) => .ok (.detour here target rest)
      | none, some _ => .error .notDirectory := by
  -- The two equations for a last name do not apply when more than a slash is left.
  rewrite [descend]
  · cases tree.nameFault? here name <;>
      rcases tree.lookup (here ++ [name]) with _ | (_ | _ | _ | _) <;> rfl
  · intro alone
    exact midway ⟨false, alone⟩
  · intro slashed
    exact midway ⟨true, slashed⟩

/-- The last name of a walk is treated by its own rule. -/
theorem descend_last (tree : FileTree) (purpose : Purpose) (here : Location) (name : Name)
    (slashed : Bool) :
    tree.descend purpose here (.enter name :: Step.ending slashed) =
      tree.arrive purpose here name slashed := by
  -- The two endings are the two equations for a last name.
  cases slashed <;> simp [Step.ending, descend]

/-- What a last name leads to: the spot itself, or the link to follow. -/
theorem arrive_eq_ok {name : Name} {slashed : Bool} {halt : Halt}
    (arrived : tree.arrive purpose here name slashed = .ok halt) :
    name.length ≤ Path.nameLimit ∧ (purpose = .creating → slashed = false) ∧
      ((halt = .spot (.named here name slashed) ∧
          (purpose ≠ .removing → ∀ target, tree.lookup (here ++ [name]) ≠ some (.link target))) ∨
        ∃ target, purpose ≠ .removing ∧ tree.lookup (here ++ [name]) = some (.link target) ∧
          halt = .detour here target (Step.ending slashed)) := by
  -- The refusal of a slash comes first, then the fault of the name, then the link.
  unfold arrive at arrived
  split at arrived
  · -- No file is made before a slash.
    cases arrived
  · rename_i allowed
    have open_ : purpose = .creating → slashed = false := by
      intro creating
      simpa [creating] using allowed
    split at arrived
    · -- The name is too long.
      cases arrived
    · rename_i target sound found
      have short := nameFault?_eq_none.mp sound
      split at arrived
      · -- One who removes takes the link itself.
        rename_i removing
        cases arrived
        exact ⟨short, open_, .inl ⟨rfl, fun other => absurd removing other⟩⟩
      · -- Everyone else is sent on by it.
        rename_i opening
        cases arrived
        exact ⟨short, open_, .inr ⟨target, opening, found, rfl⟩⟩
    · -- Where no link stands the walk has arrived.
      rename_i sound solid
      cases arrived
      exact ⟨nameFault?_eq_none.mp sound, open_, .inl ⟨rfl, fun _ => solid⟩⟩

/-- A directory on the way is entered. -/
theorem walkFrom_enter {name : Name} (short : name.length ≤ Path.nameLimit)
    (midway : ¬Step.AtEnd rest) (found : tree.lookup (here ++ [name]) = some .directory) :
    tree.walkFrom purpose links here (.enter name :: rest) =
      tree.walkFrom purpose links (here ++ [name]) rest := by
  rw [walkFrom, walkFrom, descend_enter tree purpose here name midway,
    nameFault?_eq_none.mpr short, found]

/-- A last name that is not followed is where the walk ends. -/
theorem walkFrom_arrive {name : Name} {slashed : Bool} (short : name.length ≤ Path.nameLimit)
    (open_ : purpose = .creating → slashed = false)
    (solid : purpose ≠ .removing → ∀ target, tree.lookup (here ++ [name]) ≠ some (.link target)) :
    tree.walkFrom purpose links here (.enter name :: Step.ending slashed) =
      .ok (.named here name slashed) := by
  -- A link stands there only where links are not followed.
  have allowed : ¬(purpose = .creating ∧ slashed = true) := by
    rintro ⟨creating, slash⟩
    simp [open_ creating] at slash
  rw [walkFrom, descend_last, arrive, if_neg allowed, nameFault?_eq_none.mpr short]
  cases found : tree.lookup (here ++ [name]) with
  | none => rfl
  | some entry =>
    cases entry with
    | link target =>
      by_cases removing : purpose = .removing
      · simp [removing]
      · exact absurd found (solid removing target)
    | _ => rfl

/-- A link that is followed costs one of those that may be. -/
theorem walkFrom_follow {name : Name} {target : Path} (short : name.length ≤ Path.nameLimit)
    (follows : purpose.Follows rest)
    (found : tree.lookup (here ++ [name]) = some (.link target)) :
    tree.walkFrom purpose (links + 1) here (.enter name :: rest) =
      tree.walkFrom purpose links (target.origin here) (target.steps ++ rest) := by
  -- At the end of a path a link is followed by `arrive`, on the way by `descend`.
  rw [walkFrom]
  by_cases last : Step.AtEnd rest
  · obtain ⟨slashed, rfl⟩ := last
    have onward : purpose ≠ .removing ∧ ¬(purpose = .creating ∧ slashed = true) := by
      rcases follows ⟨slashed, rfl⟩ with opening | ⟨creating, alone⟩
      · -- A reader follows a link before a slash too.
        simp [opening]
      · -- A maker follows a link only where nothing is left after it.
        cases slashed
        · simp [creating]
        · cases alone
    rw [descend_last, arrive, if_neg onward.2, nameFault?_eq_none.mpr short, found]
    simp [onward.1, Step.ending]
  · -- On the way everyone follows.
    rw [descend_enter tree purpose here name last, nameFault?_eq_none.mpr short, found]

/-- What a walk that succeeds does at a name: it ends there, enters a directory, or follows a link. -/
theorem walkFrom_enter_eq_ok {name : Name}
    (walked : tree.walkFrom purpose links here (.enter name :: rest) = .ok spot) :
    name.length ≤ Path.nameLimit ∧
      ((∃ slashed, rest = Step.ending slashed ∧ spot = .named here name slashed ∧
          (purpose = .creating → slashed = false) ∧
          (purpose ≠ .removing → ∀ target, tree.lookup (here ++ [name]) ≠ some (.link target))) ∨
        (¬Step.AtEnd rest ∧ tree.lookup (here ++ [name]) = some .directory ∧
          tree.walkFrom purpose links (here ++ [name]) rest = .ok spot) ∨
        ∃ target left, links = left + 1 ∧ purpose.Follows rest ∧
          tree.lookup (here ++ [name]) = some (.link target) ∧
          tree.walkFrom purpose left (target.origin here) (target.steps ++ rest) = .ok spot) := by
  -- The cases are those of the last name and of a name on the way; in each a link costs one more.
  by_cases last : Step.AtEnd rest
  · obtain ⟨slashed, rfl⟩ := last
    rw [walkFrom, descend_last] at walked
    cases arrived : tree.arrive purpose here name slashed with
    -- A walk that succeeds has arrived or been sent on.
    | error cause => simp [arrived] at walked
    | ok halt =>
      obtain ⟨short, open_, ⟨rfl, solid⟩ | ⟨target, opening, found, rfl⟩⟩ := arrive_eq_ok arrived
      · simp only [arrived, Except.ok.injEq] at walked
        exact ⟨short, .inl ⟨slashed, rfl, walked.symm, open_, solid⟩⟩
      · cases links with
        | zero => simp [arrived] at walked
        | succ left =>
          simp only [arrived] at walked
          refine ⟨short, .inr (.inr ⟨target, left, rfl, fun _ => ?_, found, walked⟩)⟩
          -- The purposes that are sent on by a last link are those that follow it.
          cases purpose with
          | opening => exact .inl rfl
          | removing => exact absurd rfl opening
          | creating => exact .inr ⟨rfl, by rw [open_ rfl]; rfl⟩
  · rw [walkFrom, descend_enter tree purpose here name last] at walked
    cases fault : tree.nameFault? here name with
    | some cause => simp [fault] at walked
    | none =>
      have short := nameFault?_eq_none.mp fault
      rw [fault] at walked
      -- Only a directory and a link let a walk go on.
      rcases found : tree.lookup (here ++ [name]) with _ | (_ | _ | target | _)
      · simp [found] at walked
      · rw [found] at walked
        exact ⟨short, .inr (.inl ⟨last, rfl, by rw [walkFrom]; exact walked⟩)⟩
      · simp [found] at walked
      · rw [found] at walked
        cases links with
        | zero => simp at walked
        | succ left =>
          exact ⟨short, .inr (.inr ⟨target, left, rfl, fun final => absurd final last, rfl, walked⟩)⟩
      · simp [found] at walked

/-- A walk that succeeds is a route. -/
theorem Route.of_walkFrom (walked : tree.walkFrom purpose links here steps = .ok spot) :
    Route tree purpose links here steps spot := by
  -- Each followed link uses up one of the admitted ones, and between links the steps get fewer.
  induction links using Nat.strongRecOn generalizing here steps with
  | ind links fewer =>
    induction steps generalizing here with
    | nil =>
      rw [walkFrom_nil] at walked
      cases walked
      exact .stop
    | cons step rest ih =>
      cases step with
      | stay => exact .stay (ih (by simpa using walked))
      | slash => exact .slash (ih (by simpa using walked))
      | up => exact .up (ih (by simpa using walked))
      | enter name =>
        -- Entering leaves fewer steps, and following leaves fewer links.
        obtain ⟨short, ⟨slashed, rfl, rfl, open_, solid⟩ | ⟨midway, found, onward⟩ |
          ⟨target, left, rfl, follows, found, onward⟩⟩ := walkFrom_enter_eq_ok walked
        · exact .arrive short open_ solid
        · exact .enter short midway found (ih onward)
        · exact .follow short follows found (fewer left (Nat.lt_succ_self left) onward)

/-- Every route is the way of a walk that succeeds. -/
theorem Route.walkFrom_eq (route : Route tree purpose links here steps spot) :
    tree.walkFrom purpose links here steps = .ok spot := by
  -- Each kind of step has its own equation.
  induction route with
  | stop => exact walkFrom_nil
  | stay _ ih => rw [walkFrom_stay, ih]
  | slash _ ih => rw [walkFrom_slash, ih]
  | up _ ih => rw [walkFrom_up, ih]
  | arrive short open_ solid => exact walkFrom_arrive short open_ solid
  | enter short midway found _ ih => rw [walkFrom_enter short midway found, ih]
  | follow short follows found _ ih => rw [walkFrom_follow short follows found, ih]

/-- A walk ends at a spot exactly when there is a route to it. -/
theorem walkFrom_eq_ok : tree.walkFrom purpose links here steps = .ok spot ↔
    Route tree purpose links here steps spot :=
  ⟨Route.of_walkFrom, Route.walkFrom_eq⟩

end FileTree

end ImageHeader
