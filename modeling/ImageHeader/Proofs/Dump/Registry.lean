import ImageHeader.Dump.Registry
import ImageHeader.Proofs.Text.Utf8

/-!
Registries: what a registry holds after any history of calls.

The history alone says what stands under a name: the dumper that was registered under it last, unless it was taken out
since. The main statement is that every answer of a registry agrees with that.
-/

namespace ImageHeader

namespace Registry

variable {registry start : Registry} {dumper other : Dumper} {name wanted : String}

section Single

/-- A dumper is found under its own name. -/
theorem name_of_get? (found : registry.get? name = some dumper) : dumper.name = name := by
  simpa using List.find?_some found

/-- A name is listed exactly if a dumper is found under it. -/
theorem mem_names : name ∈ registry.names ↔ ∃ dumper, registry.get? name = some dumper := by
  -- Both sides ask whether any dumper has the name.
  unfold names get?
  rw [← Option.isSome_iff_exists, List.find?_isSome, List.mem_map]
  simp

/-- A dumper that is registered is found under its name, in place of any other; under other names nothing changes. -/
theorem get?_register (registry : Registry) (dumper : Dumper) (name : String) :
    (registry.register dumper).get? name = if dumper.name = name then some dumper else registry.get? name := by
  obtain ⟨dumpers⟩ := registry
  unfold register get?
  dsimp only
  -- The induction is on the dumpers that stand before the place where the new one belongs.
  induction dumpers with
  | nil => by_cases same : dumper.name = name <;> simp [insert, same]
  | cons first rest ih =>
    unfold insert
    split
    · by_cases same : dumper.name = name <;> simp [same]
    · split
      · rename_i replaced
        by_cases same : dumper.name = name <;> simp [← replaced, same]
      · rename_i apart
        rw [List.find?_cons, List.find?_cons]
        by_cases here : first.name = name
        · -- The one that is found here has another name than the new one.
          have beside : dumper.name ≠ name := fun same => apart (same.trans here.symm)
          simp [here, beside]
        · simpa [here] using ih

/-- Once a name is taken out nothing is found under it; under other names nothing changes. -/
theorem get?_erase (registry : Registry) (name wanted : String) :
    (registry.erase name).get? wanted = if wanted = name then none else registry.get? wanted := by
  unfold erase get?
  -- What is searched for must have the name wanted, and not the name erased.
  rw [List.find?_filter]
  by_cases same : wanted = name
  · rw [if_pos same, List.find?_eq_none]
    simp [same]
  · rw [if_neg same]
    congr 1
    funext dumper
    by_cases here : dumper.name = wanted <;> simp [here, same]

/-- Taking a name out leaves the others listed. -/
theorem names_erase (registry : Registry) (name : String) :
    (registry.erase name).names = registry.names.filter (· ≠ name) := by
  -- Filtering and naming may trade places, since the filter looks at the name alone.
  unfold erase names
  rw [List.filter_map]
  rfl

/-- Nothing is put among the dumpers but the new one. -/
theorem mem_insert {dumpers : List Dumper} (member : other ∈ insert dumper dumpers) :
    other = dumper ∨ other ∈ dumpers := by
  -- The new one is put in front, in another one's place, or further behind.
  induction dumpers with
  | nil => exact .inl (List.mem_singleton.mp member)
  | cons first rest ih =>
    unfold insert at member
    split at member
    · exact List.mem_cons.mp member
    · split at member
      · exact (List.mem_cons.mp member).imp_right (List.mem_cons_of_mem _)
      · obtain rfl | behind := List.mem_cons.mp member
        · exact .inr List.mem_cons_self
        · exact (ih behind).imp_right (List.mem_cons_of_mem _)

end Single

/-- The dumpers stand in the order of their names, each name once. -/
def Ascending (registry : Registry) : Prop := registry.dumpers.Pairwise fun first second => first.name < second.name

/-- Registering a dumper keeps the order. -/
theorem Ascending.register (ascending : registry.Ascending) (dumper : Dumper) :
    (registry.register dumper).Ascending := by
  obtain ⟨dumpers⟩ := registry
  unfold Ascending Registry.register at *
  dsimp only at *
  induction dumpers with
  | nil => exact List.pairwise_singleton _ _
  | cons first rest ih =>
    obtain ⟨least, more⟩ := List.pairwise_cons.mp ascending
    unfold insert
    split
    · -- It comes before the first one, and so before all others.
      rename_i before
      refine List.pairwise_cons.mpr ⟨fun other member => ?_, ascending⟩
      obtain rfl | behind := List.mem_cons.mp member
      · exact before
      · exact String.lt_trans before (least other behind)
    · rename_i notBefore
      split
      · -- It takes the place of the first one.
        rename_i same
        exact List.pairwise_cons.mpr ⟨fun other member => same ▸ least other member, more⟩
      · -- It comes somewhere behind the first one.
        rename_i apart
        have behind : first.name < dumper.name := String.not_le.mp fun notBehind =>
          apart (String.le_antisymm notBehind (String.not_lt.mp notBefore))
        refine List.pairwise_cons.mpr ⟨fun other member => ?_, ih more⟩
        obtain rfl | old := mem_insert member
        · exact behind
        · exact least other old

/-- Taking a name out keeps the order. -/
theorem Ascending.erase (ascending : registry.Ascending) (name : String) : (registry.erase name).Ascending :=
  List.Pairwise.filter _ ascending

/-- A call to a registry. -/
inductive Call where
  | register (dumper : Dumper)
  | get (name : String)
  | take (name : String)
  | names

/-- What a registry answers to a call. -/
inductive Answer where
  | registered
  | found (dumper : Option Dumper)
  | taken (result : Except DumpError Dumper)
  | listed (names : List String)

/-- The answer to a call, and the registry after it. -/
def answer (registry : Registry) : Call → Answer × Registry
  | .register dumper => (.registered, registry.register dumper)
  | .get name => (.found (registry.get? name), registry)
  | .take name =>
    match registry.take name with
    | .ok (dumper, rest) => (.taken (.ok dumper), rest)
    | .error error => (.taken (.error error), registry)
  | .names => (.listed registry.names, registry)

/-- Calls with their answers, oldest first. -/
abbrev History := List (Call × Answer)

/-- The history of some calls, and the registry after them. -/
def run (registry : Registry) : List Call → History × Registry
  | [] => ([], registry)
  | call :: rest =>
    let (answer, next) := registry.answer call
    let (history, last) := next.run rest
    ((call, answer) :: history, last)

/-- What ends the time of a dumper under a name: a dumper is registered under that name, or the name is taken out. -/
inductive Ends (name : String) : Call × Answer → Prop
  | replaced (dumper : Dumper) (answer : Answer) (same : dumper.name = name) :
      Ends name (.register dumper, answer)
  | taken (dumper : Dumper) : Ends name (.take name, .taken (.ok dumper))

/-- What a history says of a name: the dumper was registered under it, and nothing since has ended that. -/
def Stands (history : History) (name : String) (dumper : Dumper) : Prop :=
  ∃ before answer after, history = before ++ (.register dumper, answer) :: after ∧ dumper.name = name ∧
    ∀ event ∈ after, ¬Ends name event

/-- Nothing stands under any name before the first call. -/
theorem not_stands_nil : ¬Stands [] name dumper := by
  -- There is no call that could have registered it.
  rintro ⟨before, answer, after, split, _⟩
  cases before <;> cases split

/-- With one more call a dumper stands under a name if it has just been registered under it, or if it stood there before
and the call has not ended that. -/
theorem stands_concat {history : History} {event : Call × Answer} :
    Stands (history ++ [event]) name dumper ↔
      (dumper.name = name ∧ ∃ answer, event = (.register dumper, answer)) ∨
        Stands history name dumper ∧ ¬Ends name event := by
  constructor
  · rintro ⟨before, answer, after, split, named, quiet⟩
    obtain rfl | ⟨front, last, rfl⟩ := after.eq_nil_or_concat
    · -- The registration is the last call.
      obtain ⟨_, same⟩ := List.append_inj' split rfl
      exact .inl ⟨named, answer, List.singleton_inj.mp same⟩
    · rw [List.concat_eq_append, ← List.cons_append, ← List.append_assoc] at split
      obtain ⟨earlier, same⟩ := List.append_inj' split rfl
      obtain rfl := List.singleton_inj.mp same
      exact .inr ⟨⟨before, answer, front, earlier, named, fun other member => quiet other (by simp [member])⟩,
        quiet event (by simp)⟩
  · -- A registration that has just happened has nothing behind it that could end it.
    rintro (⟨named, answer, rfl⟩ | ⟨⟨before, answer, after, rfl, named, quiet⟩, lasts⟩)
    · exact ⟨history, answer, [], rfl, named, by simp⟩
    · refine ⟨before, answer, after ++ [event], by simp, named, fun other member => ?_⟩
      obtain earlier | rfl := by simpa using member
      · exact quiet other earlier
      · exact lasts

/-- A registry agrees with a history: its dumpers are in order, and it finds under each name what stands there. -/
structure Agrees (history : History) (registry : Registry) : Prop where
  ascending : registry.Ascending
  finds : ∀ name dumper, registry.get? name = some dumper ↔ Stands history name dumper

variable {history : History}

/-- The registry without dumpers agrees with the history of no calls. -/
theorem agrees_empty : Agrees [] empty :=
  ⟨List.Pairwise.nil, fun _ _ => ⟨(nomatch ·), fun stands => absurd stands not_stands_nil⟩⟩

/-- A call that ends nothing and registers nothing leaves standing what stood. -/
theorem Agrees.keep (agrees : Agrees history registry) {event : Call × Answer}
    (quiet : ∀ name, ¬Ends name event) (other : ∀ dumper answer, event ≠ (.register dumper, answer)) :
    Agrees (history ++ [event]) registry := by
  -- Of the two ways to stand after the call only the old one is left.
  refine ⟨agrees.ascending, fun name dumper => ?_⟩
  rw [agrees.finds, stands_concat]
  constructor
  · exact fun stands => .inr ⟨stands, quiet name⟩
  · rintro (⟨_, answer, same⟩ | ⟨stands, _⟩)
    · exact absurd same (other dumper answer)
    · exact stands

/-- A registration is what the history says of it. -/
theorem Agrees.register (agrees : Agrees history registry) (dumper : Dumper) :
    Agrees (history ++ [(.register dumper, .registered)]) (registry.register dumper) := by
  refine ⟨agrees.ascending.register dumper, fun name other => ?_⟩
  rw [get?_register, stands_concat]
  by_cases same : dumper.name = name
  · -- The new dumper stands under this name, whatever stood there before.
    rw [if_pos same]
    constructor
    · intro found
      obtain rfl := Option.some.inj found
      exact .inl ⟨same, _, rfl⟩
    · rintro (⟨_, _, registered⟩ | ⟨_, lasts⟩)
      · cases registered
        rfl
      · exact absurd (.replaced dumper _ same) lasts
  · rw [if_neg same, agrees.finds]
    constructor
    · refine fun stands => .inr ⟨stands, fun ends => ?_⟩
      cases ends with
      | replaced _ _ replaced => exact same replaced
    · rintro (⟨named, _, registered⟩ | ⟨stands, _⟩)
      · cases registered
        exact absurd named same
      · exact stands

/-- A dumper that is taken out stands no longer, and all others do. -/
theorem Agrees.erase (agrees : Agrees history registry) (dumper : Dumper) (name : String) :
    Agrees (history ++ [(.take name, .taken (.ok dumper))]) (registry.erase name) := by
  refine ⟨agrees.ascending.erase name, fun wanted other => ?_⟩
  rw [get?_erase, stands_concat]
  by_cases same : wanted = name
  · -- Under the name itself nothing is found, and what stood there has ended.
    subst same
    rw [if_pos rfl]
    constructor
    · exact fun found => nomatch found
    · rintro (⟨_, _, registered⟩ | ⟨_, lasts⟩)
      · cases registered
      · exact absurd (.taken dumper) lasts
  · rw [if_neg same, agrees.finds]
    constructor
    · refine fun stands => .inr ⟨stands, fun ends => ?_⟩
      cases ends with
      | taken => exact same rfl
    · rintro (⟨_, _, registered⟩ | ⟨stands, _⟩)
      · cases registered
      · exact stands

/-- What is taken out is what is found. -/
theorem take_of_get? (found : registry.get? name = some dumper) :
    registry.take name = .ok (dumper, registry.erase name) := by
  rw [take, found]

/-- Nothing is taken out where nothing is found. -/
theorem take_of_not_get? (missing : registry.get? name = none) :
    registry.take name = .error (.unknownConverter name (", ".intercalate registry.names)) := by
  rw [take, missing, unknown]

/-- One call keeps a registry in agreement with its history. -/
theorem Agrees.answer (agrees : Agrees history registry) (call : Call) :
    Agrees (history ++ [(call, (registry.answer call).1)]) (registry.answer call).2 := by
  -- Only two kinds of call change the registry; the others and a miss only ask.
  cases call with
  | register dumper => exact agrees.register dumper
  | get name => exact agrees.keep (fun _ ends => nomatch ends) (fun _ _ same => nomatch same)
  | take name =>
    cases found : registry.get? name with
    | some dumper =>
      simp only [Registry.answer, take_of_get? found]
      exact agrees.erase dumper name
    | none =>
      simp only [Registry.answer, take_of_not_get? found]
      exact agrees.keep (fun _ ends => nomatch ends) (fun _ _ same => nomatch same)
  | names => exact agrees.keep (fun _ ends => nomatch ends) (fun _ _ same => nomatch same)

/-- Any calls do. -/
theorem Agrees.run (agrees : Agrees history registry) (calls : List Call) :
    Agrees (history ++ (registry.run calls).1) (registry.run calls).2 := by
  -- The induction is on the calls; each of them becomes part of the history for those behind it.
  induction calls generalizing history registry with
  | nil => simpa [Registry.run] using agrees
  | cons call rest ih =>
    have more := ih (agrees.answer call)
    rw [List.append_assoc] at more
    exact more

/-- The next answers of a registry are those that its history calls for. -/
structure Faithful (history : History) (registry : Registry) : Prop where
  /-- The names are listed in ascending order of their bytes, each once, and nothing is changed. -/
  names : registry.answer .names = (.listed registry.names, registry) ∧
    registry.names.Pairwise fun first second => Utf8.encode first < Utf8.encode second
  /-- A name is listed exactly if something stands under it. -/
  listed : ∀ name, name ∈ registry.names ↔ ∃ dumper, Stands history name dumper
  /-- Exactly what stands under a name is found, it has that name, and nothing is changed. -/
  get : ∀ name, ∃ found, registry.answer (.get name) = (.found found, registry) ∧
    ∀ dumper, (found = some dumper ↔ Stands history name dumper) ∧ (found = some dumper → dumper.name = name)
  /-- What stands under a name is taken out, and only that name with it. -/
  take : ∀ name dumper, Stands history name dumper → ∃ rest,
    registry.answer (.take name) = (.taken (.ok dumper), rest) ∧ dumper.name = name ∧
      rest.names = registry.names.filter (· ≠ name) ∧ rest.get? name = none ∧
      ∀ other, other ≠ name → rest.get? other = registry.get? other
  /-- Under a name where nothing stands nothing can be taken out; the error tells the names that can. -/
  miss : ∀ name, (∀ dumper, ¬Stands history name dumper) →
    registry.answer (.take name) =
      (.taken (.error (.unknownConverter name (", ".intercalate registry.names))), registry)

/-- A registry that agrees with its history answers by it. -/
theorem Agrees.faithful (agrees : Agrees history registry) : Faithful history registry where
  names := by
    refine ⟨rfl, ?_⟩
    -- The order of names is that of their bytes, in which a text is encoded.
    unfold Registry.names
    exact List.pairwise_map.mpr (agrees.ascending.imp Utf8.encode_lt_encode)
  listed name := by simp only [mem_names, agrees.finds]
  get name := ⟨registry.get? name, rfl, fun dumper => ⟨agrees.finds name dumper, name_of_get?⟩⟩
  take name dumper stands := by
    have found := (agrees.finds name dumper).mpr stands
    refine ⟨registry.erase name, ?_, name_of_get? found, names_erase registry name, ?_, fun other apart => ?_⟩
    · simp only [Registry.answer, take_of_get? found]
    · rw [get?_erase, if_pos rfl]
    · rw [get?_erase, if_neg apart]
  miss name missing := by
    have absent : registry.get? name = none := by
      cases found : registry.get? name with
      | none => rfl
      | some dumper => exact absurd ((agrees.finds name dumper).mp found) (missing dumper)
    simp only [Registry.answer, take_of_not_get? absent]

/-- The calls that make the registry of the external and the builtin dumper. -/
def standardCalls (host : Host) (program : Option Path) : List Call :=
  [.register (External.dumper (program.getD (External.programOf host))),
    .register (Literals.dumper Literals.defaultColumns)]

/-- After any calls, to the registry without dumpers or to the standard one, the names are listed in ascending byte
order, without repetition, and exactly those under which a dumper was registered that has not been taken out since; the
dumper that is found or taken out under a name is the last one registered under it, and has that name; taking it out
removes that name alone, and finding it changes nothing; and a name under which none stands cannot be taken out, which
changes nothing and is told with the names that can. -/
theorem faithful_run (calls : List Call) :
    Faithful (empty.run calls).1 (empty.run calls).2 ∧
      ∀ host program, Faithful ((empty.run (standardCalls host program)).1 ++ ((standard host program).run calls).1)
        ((standard host program).run calls).2 := by
  constructor
  · exact (agrees_empty.run calls).faithful
  · intro host program
    -- The standard registry is what two registrations leave.
    have founded : Agrees (empty.run (standardCalls host program)).1 (standard host program) :=
      agrees_empty.run (standardCalls host program)
    exact (founded.run calls).faithful

end Registry

end ImageHeader
