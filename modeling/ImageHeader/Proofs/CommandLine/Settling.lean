import ImageHeader.CommandLine
import ImageHeader.Proofs.Text.Utf8
import Mathlib.Data.List.TakeDrop

/-!
Settling: when the faults of arguments are found.

An option is settled, and may be found faulty, only when something comes after its value. Settling it earlier changes
nothing, except that another fault may be told of.
-/

namespace ImageHeader.CommandLine.Reading

variable {reading settled : Reading} {refusal : Refusal} {argument : List UInt8}

section Settling

/-- The next argument may be the value of an option. -/
def Awaits (reading : Reading) : Prop :=
  reading.escaped = false ∧ ∃ option, reading.pending = some (.option option none)

/-- Settling an option finds a fault or adds a value, and looks neither at the flags nor at what may follow. -/
theorem settleOption_cases (reading : Reading) (option : Valued) (value : Option (List UInt8)) :
    (∃ error, ∀ flags escaped, settleOption { reading with flags := flags, escaped := escaped } option value =
        .error (.usage error)) ∨
      ∃ values, ∀ flags escaped, settleOption { reading with flags := flags, escaped := escaped } option value =
        .ok { reading with values := values, flags := flags, escaped := escaped } := by
  -- A fault depends on the option, its value and the values given before, and on nothing else of the reading.
  cases value with
  | none => exact .inl ⟨_, fun _ _ => rfl⟩
  | some value =>
    by_cases given : (reading.values.any fun pair => pair.1 = option) = true
    · exact .inl ⟨.repeated option.shown, fun _ _ => by simp only [settleOption, if_pos given]⟩
    · -- An option for a path must not be empty, and any other has to be text.
      by_cases path : option.isPath = true
      · by_cases empty : value = []
        · exact .inl ⟨.valueMissing option.shown,
            fun _ _ => by simp only [settleOption, if_neg given, if_pos path, if_pos empty]⟩
        · exact .inr ⟨(option, value) :: reading.values,
            fun _ _ => by simp only [settleOption, if_neg given, if_pos path, if_neg empty]⟩
      · by_cases malformed : (Utf8.decode? value).isNone = true
        · exact .inl ⟨.malformedText,
            fun _ _ => by simp only [settleOption, if_neg given, if_neg path, if_pos malformed]⟩
        · exact .inr ⟨(option, value) :: reading.values,
            fun _ _ => by simp only [settleOption, if_neg given, if_neg path, if_neg malformed]⟩

/-- Settling finds a fault or leaves nothing waiting, and looks neither at the flags nor at what may follow. -/
theorem settle_cases (reading : Reading) :
    (∃ error, ∀ flags escaped, settle { reading with flags := flags, escaped := escaped } = .error (.usage error)) ∨
      ∃ values binary, ∀ flags escaped, settle { reading with flags := flags, escaped := escaped } =
        .ok { reading with
          values := values, binary := binary, pending := none, flags := flags, escaped := escaped } := by
  unfold settle
  -- What waits is an option, with its value or still without one, or else the binary.
  cases waiting : reading.pending with
  | none => exact .inr ⟨_, _, fun _ _ => rfl⟩
  | some pending =>
    cases pending with
    | option option value =>
      obtain ⟨error, faulty⟩ | ⟨values, settled⟩ := settleOption_cases { reading with pending := none } option value
      · exact .inl ⟨error, faulty⟩
      · exact .inr ⟨values, reading.binary, settled⟩
    | binary value =>
      dsimp only
      split
      · exact .inl ⟨_, fun _ _ => rfl⟩
      · exact .inr ⟨_, _, fun _ _ => rfl⟩

/-- What settling comes to carries the flags along, and whether only the binary may follow. -/
theorem settle_with (reading : Reading) (flags : List Flag) (escaped : Bool) :
    settle { reading with flags := flags, escaped := escaped } =
      reading.settle.map fun settled => { settled with flags := flags, escaped := escaped } := by
  -- Both ways of settling are said for all flags at once, so those of the reading may be put in as well.
  obtain ⟨_, faulty⟩ | ⟨_, _, settling⟩ := settle_cases reading
  · rw [faulty flags escaped, show reading.settle = _ from faulty reading.flags reading.escaped]
    rfl
  · rw [settling flags escaped, show reading.settle = _ from settling reading.flags reading.escaped]
    rfl

/-- Nothing waits once it is settled, and the rest is as it was. -/
theorem of_settle (done : reading.settle = .ok settled) :
    settled.pending = none ∧ settled.escaped = reading.escaped ∧ settled.binaryTaken = reading.binaryTaken ∧
      settled.flags = reading.flags := by
  obtain ⟨_, faulty⟩ | ⟨_, _, settling⟩ := settle_cases reading
  · cases (faulty reading.flags reading.escaped).symm.trans done
  · cases (settling reading.flags reading.escaped).symm.trans done
    exact ⟨rfl, rfl, rfl, rfl⟩

/-- Settling finds a fault or is done. -/
theorem settle_faulty_or_done (reading : Reading) :
    (∃ error, reading.settle = .error (.usage error)) ∨ ∃ settled, reading.settle = .ok settled := by
  obtain ⟨error, faulty⟩ | ⟨_, _, settling⟩ := settle_cases reading
  · exact .inl ⟨error, faulty reading.flags reading.escaped⟩
  · exact .inr ⟨_, settling reading.flags reading.escaped⟩

/-- Where nothing waits no option waits for a value. -/
theorem not_awaits_of_quiet (quiet : reading.pending = none) : ¬reading.Awaits := fun ⟨_, _, waiting⟩ =>
  nomatch quiet.symm.trans waiting

/-- What is settled stays as it is. -/
theorem settle_settled (quiet : reading.pending = none) : reading.settle = .ok reading := by
  obtain ⟨_, _, _, _, pending, _⟩ := reading
  -- Nothing waits, so settling gives the reading back.
  cases quiet
  rfl

/-- A reading that is settled takes flags like the one it was. -/
theorem takeFlag_settled (done : reading.settle = .ok settled) (flag : Flag) :
    reading.takeFlag flag = settled.takeFlag flag := by
  -- A flag settles the reading first, which changes nothing the second time.
  rw [takeFlag, takeFlag, done, settle_settled (of_settle done).1]

/-- A reading that is settled takes long options and flags like the one it was. -/
theorem takeLong_settled (done : reading.settle = .ok settled) (name : List UInt8) (attached : Option (List UInt8)) :
    reading.takeLong name attached = settled.takeLong name attached := by
  simp only [takeLong, done, settle_settled (of_settle done).1, takeFlag_settled done]

/-- A reading that is settled takes short flags like the one it was. -/
theorem takeShort_settled (done : reading.settle = .ok settled) (rest : List UInt8) {pieces : List (Option Char)}
    (some_ : pieces ≠ []) : reading.takeShort rest pieces = settled.takeShort rest pieces := by
  -- Only the first flag can find something waiting.
  cases pieces with
  | nil => exact absurd rfl some_
  | cons piece more => cases piece <;> simp only [takeShort, takeFlag_settled done]

/-- Unless an option waits for a value, what is no option is the binary. -/
theorem takePlain_of_not_awaits (ready : ¬reading.Awaits) (argument : List UInt8) :
    reading.takePlain argument =
      if reading.binaryTaken then .error (.usage (.unexpected (Utf8.decodeLossy argument)))
      else
        match reading.settle with
        | .error refusal => .error refusal
        | .ok settled => .ok { settled with pending := some (.binary argument), binaryTaken := true } := by
  unfold takePlain
  -- The other case is that of an option that waits, which is excluded.
  split
  · rename_i option open_ waiting
    exact absurd ⟨open_, option, waiting⟩ ready
  · rfl

/-- A reading that is settled takes the binary like the one it was. -/
theorem takePlain_settled (done : reading.settle = .ok settled) (ready : ¬reading.Awaits) (argument : List UInt8) :
    reading.takePlain argument = settled.takePlain argument := by
  obtain ⟨quiet, _, taken, _⟩ := of_settle done
  -- Neither reading has an option that waits, and in both the binary was taken or was not.
  rw [takePlain_of_not_awaits ready, takePlain_of_not_awaits (not_awaits_of_quiet quiet), taken, done,
    settle_settled quiet]

/-- A reading that is settled takes an argument like the one it was, unless it says that only the binary may follow. -/
theorem take_settled (done : reading.settle = .ok settled) (ready : ¬reading.Awaits)
    (plain : reading.escaped = true ∨ argument ≠ [hyphen, hyphen]) :
    reading.take argument = settled.take argument := by
  have escaped : settled.escaped = reading.escaped := (of_settle done).2.1
  unfold take
  rw [escaped]
  -- Where only the binary may follow, every argument counts as one.
  by_cases open_ : reading.escaped = true
  · rw [if_pos open_, if_pos open_, takePlain_settled done ready]
  · have other : argument ≠ [hyphen, hyphen] := plain.resolve_left open_
    simp only [if_neg open_, if_neg other, takeLong_settled done, takePlain_settled done ready]
    -- Each of the remaining kinds of argument settles the reading before it does anything else.
    split
    · rfl
    · split
      · rw [takeShort_settled done _ (Utf8.pieces_ne_nil _ _)]
      · rfl

/-- Where a fault waits to be found, flags come to it. -/
theorem takeFlag_faulty {error : UsageError} (faulty : reading.settle = .error (.usage error)) (flag : Flag) :
    reading.takeFlag flag = .error (.usage error) := by
  rw [takeFlag, faulty]

/-- Where a fault waits to be found, short flags come to a fault as well. -/
theorem takeShort_faulty {error : UsageError} (faulty : reading.settle = .error (.usage error)) (rest : List UInt8)
    {pieces : List (Option Char)} (some_ : pieces ≠ []) :
    ∃ error, reading.takeShort rest pieces = .error (.usage error) := by
  cases pieces with
  | nil => exact absurd rfl some_
  | cons piece more =>
    cases piece with
    | none => exact ⟨_, rfl⟩
    | some char =>
      -- Either the flag is unknown, or taking it comes to the fault that waits.
      simp only [takeShort, takeFlag_faulty faulty]
      split <;> exact ⟨_, rfl⟩

/-- Where a fault waits to be found, an argument comes to a fault as well, unless it says that only the binary may
follow. -/
theorem take_faulty {error : UsageError} (faulty : reading.settle = .error (.usage error)) (ready : ¬reading.Awaits)
    (plain : reading.escaped = true ∨ argument ≠ [hyphen, hyphen]) :
    ∃ error, reading.take argument = .error (.usage error) := by
  -- What is no option is one binary too many, or comes to the fault that waits.
  have value : ∃ error, reading.takePlain argument = .error (.usage error) := by
    rw [takePlain_of_not_awaits ready, faulty]
    split
    · exact ⟨_, rfl⟩
    · exact ⟨_, rfl⟩
  -- A name that is no text, an unknown name and a value for a flag are faults of their own; all else settles first.
  have long (name : List UInt8) (attached : Option (List UInt8)) :
      ∃ error, reading.takeLong name attached = .error (.usage error) := by
    simp only [takeLong, faulty, takeFlag_faulty faulty]
    split
    · exact ⟨_, rfl⟩
    · split
      · exact ⟨_, rfl⟩
      · split
        · split <;> exact ⟨_, rfl⟩
        · exact ⟨_, rfl⟩
  unfold take
  -- All kinds of argument but the two hyphens come to one of these faults.
  by_cases open_ : reading.escaped = true
  · rwa [if_pos open_]
  · rw [if_neg open_, if_neg (plain.resolve_left open_)]
    split
    · split <;> exact long _ _
    · split
      · split
        · exact takeShort_faulty faulty _ (Utf8.pieces_ne_nil _ _)
        · exact value
      · exact value

/-- Behind two hyphens only the binary may follow. -/
theorem take_hyphens (open_ : ¬reading.escaped = true) :
    reading.take [hyphen, hyphen] = .ok { reading with escaped := true } := by
  rw [take, if_neg open_, if_pos rfl]

/-- Where only the binary may follow no option waits for a value. -/
theorem not_awaits_escaped : ¬Awaits { reading with escaped := true } := fun ⟨open_, _⟩ => nomatch open_

/-- A reading that is settled takes all arguments like the one it was. -/
theorem takeAll_settled (done : reading.settle = .ok settled) (ready : ¬reading.Awaits)
    (arguments : List (List UInt8)) : reading.takeAll arguments = settled.takeAll arguments := by
  -- Only two hyphens settle nothing, and they are taken alike.
  induction arguments generalizing reading settled with
  | nil => rw [takeAll, takeAll, done, settle_settled (of_settle done).1]
  | cons argument rest ih =>
    by_cases plain : reading.escaped = true ∨ argument ≠ [hyphen, hyphen]
    · rw [takeAll, takeAll, take_settled done ready plain]
    · obtain ⟨open_, same⟩ := not_or.mp plain
      obtain rfl := Decidable.not_not.mp same
      have open_' : ¬settled.escaped = true := by rwa [(of_settle done).2.1]
      rw [takeAll, takeAll, take_hyphens open_, take_hyphens open_']
      -- Behind the two hyphens the same is left to settle as before.
      refine ih ?_ not_awaits_escaped
      rw [settle_with reading reading.flags true, done, ← (of_settle done).2.2.2]
      rfl

/-- Where a fault waits to be found, all arguments come to a fault. -/
theorem takeAll_faulty {error : UsageError} (faulty : reading.settle = .error (.usage error))
    (ready : ¬reading.Awaits) (arguments : List (List UInt8)) :
    ∃ error, reading.takeAll arguments = .error (.usage error) := by
  -- The fault waits until something is settled: at an argument, or else at the end.
  induction arguments generalizing reading with
  | nil => exact ⟨error, faulty⟩
  | cons argument rest ih =>
    by_cases plain : reading.escaped = true ∨ argument ≠ [hyphen, hyphen]
    · obtain ⟨error, taken⟩ := take_faulty faulty ready plain
      exact ⟨error, by rw [takeAll, taken]⟩
    · obtain ⟨open_, same⟩ := not_or.mp plain
      obtain rfl := Decidable.not_not.mp same
      rw [takeAll, take_hyphens open_]
      refine ih ?_ not_awaits_escaped
      rw [settle_with reading reading.flags true, faulty]
      rfl

end Settling

section Before

variable {next : Reading} {before : List (List UInt8)}

/-- Nothing waits after a flag. -/
theorem of_takeFlag {flag : Flag} (taken : reading.takeFlag flag = .ok next) :
    next.pending = none ∧ next.escaped = reading.escaped := by
  unfold takeFlag at taken
  split at taken
  · cases taken
  · rename_i settled done
    obtain ⟨quiet, escaped, _⟩ := of_settle done
    -- Help and version end the reading, and a flag that may be given once is refused the second time.
    cases flag with
    | help => cases taken
    | version => cases taken
    | verbose =>
      cases taken
      exact ⟨quiet, escaped⟩
    | ensureClosed | json =>
      dsimp only at taken
      split at taken
      · cases taken
      · cases taken
        exact ⟨quiet, escaped⟩

/-- Nothing waits after short flags. -/
theorem of_takeShort {rest : List UInt8} {pieces : List (Option Char)} (some_ : pieces ≠ [])
    (taken : reading.takeShort rest pieces = .ok next) : next.pending = none ∧ next.escaped = reading.escaped := by
  -- The induction is on the characters that are left; the last one decides what waits.
  induction pieces generalizing reading rest with
  | nil => exact absurd rfl some_
  | cons piece more ih =>
    cases piece with
    | none => cases taken
    | some char =>
      unfold takeShort at taken
      split at taken
      · cases taken
      · split at taken
        · cases taken
        · rename_i flagged first
          obtain ⟨quiet, escaped⟩ := of_takeFlag first
          by_cases last : more = []
          · subst last
            cases taken
            exact ⟨quiet, escaped⟩
          · obtain ⟨quiet', escaped'⟩ := ih last taken
            exact ⟨quiet', escaped'.trans escaped⟩

/-- After a long option or flag, an option waits for a value only if it came without one. -/
theorem of_takeLong {name : List UInt8} {attached : Option (List UInt8)}
    (taken : reading.takeLong name attached = .ok next) :
    next.escaped = reading.escaped ∧
      (next.pending = none ∨ attached = none ∧ ∃ option : Valued, name = Utf8.encode option.name) := by
  unfold takeLong at taken
  -- The name may be no text, an option, a flag, or unknown.
  split at taken
  · cases taken
  · rename_i text decoded
    split at taken
    · rename_i option named
      split at taken
      · cases taken
      · rename_i settled done
        obtain ⟨quiet, escaped, _⟩ := of_settle done
        split at taken
        · rename_i value
          obtain ⟨_, faulty⟩ | ⟨_, settling⟩ := settleOption_cases settled option (some value)
          · cases (faulty settled.flags settled.escaped).symm.trans taken
          · cases (settling settled.flags settled.escaped).symm.trans taken
            exact ⟨escaped, .inl quiet⟩
        · cases taken
          -- The option was found under this name, and its name in bytes is the one that was given.
          have same : option.name = text := by simpa using List.find?_some named
          exact ⟨escaped, .inr ⟨rfl, option, by rw [same, ← Utf8.decode?_eq_some, decoded]⟩⟩
    · split at taken
      · split at taken
        · cases taken
        · obtain ⟨quiet, escaped⟩ := of_takeFlag taken
          exact ⟨escaped, .inl quiet⟩
      · cases taken

/-- What is no option is not an option that waits for a value. -/
theorem of_takePlain (taken : reading.takePlain argument = .ok next) :
    next.escaped = reading.escaped ∧ ∀ option, next.pending ≠ some (.option option none) := by
  unfold takePlain at taken
  -- It is the value of an option that waits, or the binary.
  split at taken
  · cases taken
    exact ⟨rfl, fun _ waiting => nomatch waiting⟩
  · split at taken
    · cases taken
    · split at taken
      · cases taken
      · rename_i settled done
        cases taken
        exact ⟨(of_settle done).2.1, fun _ waiting => nomatch waiting⟩

/-- After an argument other than two hyphens, an option waits for a value only if the argument is that option alone. -/
theorem of_take (open_ : ¬reading.escaped = true) (other : argument ≠ [hyphen, hyphen])
    (taken : reading.take argument = .ok next) :
    ¬next.escaped = true ∧
      (next.Awaits → ∃ option : Valued, argument = Utf8.encode ("--" ++ option.name)) := by
  -- What is no option leaves either a value that was given or a binary to wait.
  have plain (taken : reading.takePlain argument = .ok next) :
      ¬next.escaped = true ∧ (next.Awaits → ∃ option : Valued, argument = Utf8.encode ("--" ++ option.name)) := by
    obtain ⟨escaped, quiet⟩ := of_takePlain taken
    exact ⟨escaped ▸ open_, fun ⟨_, option, waiting⟩ => absurd waiting (quiet option)⟩
  unfold take at taken
  rw [if_neg open_, if_neg other] at taken
  split at taken
  · rename_i marked
    obtain ⟨text, rfl⟩ := List.isPrefixOf_iff_prefix.mp marked
    -- The name of a long option ends where its value begins.
    have whole := @List.takeWhile_append_dropWhile _ (· ≠ (0x3D : UInt8)) text
    rw [List.cons_append, List.cons_append, List.nil_append, List.drop_succ_cons, List.drop_succ_cons, List.drop_zero,
      List.span_eq_takeWhile_dropWhile] at taken
    split at taken
    · rename_i name split_
      obtain ⟨rfl, rest⟩ := Prod.mk.inj split_
      rw [rest, List.append_nil] at whole
      obtain ⟨escaped, quiet | ⟨_, option, named⟩⟩ := of_takeLong taken
      · exact ⟨escaped ▸ open_, fun waits => absurd waits (not_awaits_of_quiet quiet)⟩
      · refine ⟨escaped ▸ open_, fun _ => ⟨option, ?_⟩⟩
        rw [Utf8.encode_append, ← named, whole]
        rfl
    · -- With a value of its own the option does not wait for another one.
      obtain ⟨escaped, quiet | ⟨attached, _⟩⟩ := of_takeLong taken
      · exact ⟨escaped ▸ open_, fun waits => absurd waits (not_awaits_of_quiet quiet)⟩
      · cases attached
  · split at taken
    · rename_i first second rest _
      split at taken
      · obtain ⟨quiet, escaped⟩ := of_takeShort (Utf8.pieces_ne_nil second rest) taken
        exact ⟨escaped ▸ open_, fun waits => absurd waits (not_awaits_of_quiet quiet)⟩
      · exact plain taken
    · exact plain taken

/-- Arguments that hold no two hyphens alone are refused, or come to a reading in which an option waits for a value only
if it is the last of them. -/
theorem takeAll_append (reading : Reading) (open_ : ¬reading.escaped = true) (none : [hyphen, hyphen] ∉ before) :
    (∃ refusal, ∀ after, reading.takeAll (before ++ after) = .error refusal) ∨
      ∃ reached : Reading, ¬reached.escaped = true ∧
        (∀ after, reading.takeAll (before ++ after) = reached.takeAll after) ∧
        (reached.Awaits → before = [] ∧ reading.Awaits ∨
          ∃ option : Valued, before.getLast? = some (Utf8.encode ("--" ++ option.name))) := by
  -- The induction is on the arguments before; the reading that each of them leads to takes the others.
  induction before generalizing reading with
  | nil => exact .inr ⟨reading, open_, fun _ => rfl, fun awaits => .inl ⟨rfl, awaits⟩⟩
  | cons argument rest ih =>
    obtain ⟨other, others⟩ := not_or.mp fun member => none (List.mem_cons.mpr member)
    cases taken : reading.take argument with
    | error refusal => exact .inl ⟨refusal, fun after => by rw [List.cons_append, takeAll, taken]⟩
    | ok next =>
      have onward (after : List (List UInt8)) :
          reading.takeAll (argument :: rest ++ after) = next.takeAll (rest ++ after) := by
        rw [List.cons_append, takeAll, taken]
      obtain ⟨open_', last⟩ := of_take open_ (Ne.symm other) taken
      obtain ⟨refusal, refused⟩ | ⟨reached, open_'', same, awaits⟩ := ih next open_' others
      · exact .inl ⟨refusal, fun after => by rw [onward, refused]⟩
      · refine .inr ⟨reached, open_'', fun after => by rw [onward, same], fun waits => .inr ?_⟩
        -- What waits at last was left by the first argument if no other one follows, and by a later one otherwise.
        obtain ⟨rfl, waits'⟩ | ⟨option, ends⟩ := awaits waits
        · obtain ⟨option, rfl⟩ := last waits'
          exact ⟨option, rfl⟩
        · have some_ : rest ≠ [] := by
            rintro rfl
            cases ends
          exact ⟨option, by rw [List.getLast?_cons_of_ne_nil some_, ends]⟩

end Before

end ImageHeader.CommandLine.Reading
