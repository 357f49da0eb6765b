import ImageHeader.Proofs.CommandLine.Settling
import Mathlib.Data.List.TakeWhile

/-!
Verbosity: what is asked for does not depend on how often a command is asked to say more.

A flag settles what waits for being settled, so that a fault may be found earlier than without it; apart from that it
only joins the other flags.
-/

namespace ImageHeader.CommandLine

namespace Reading

variable {reading : Reading}

section Quiet

variable {first second : Reading}

/-- A reading without the requests to say more. -/
def quiet (reading : Reading) : Reading := { reading with flags := reading.flags.filter (· ≠ .verbose) }

/-- What two readings come to that differ in the requests to say more alone. -/
inductive Alike : Except Refusal Reading → Except Refusal Reading → Prop
  | refused (refusal : Refusal) : Alike (.error refusal) (.error refusal)
  | read {first second : Reading} (same : first.quiet = second.quiet) : Alike (.ok first) (.ok second)

/-- Readings that differ in the requests to say more alone differ in their flags alone. -/
theorem exists_flags (same : first.quiet = second.quiet) :
    ∃ flags, second = { first with flags := flags } ∧
      first.flags.filter (· ≠ .verbose) = flags.filter (· ≠ .verbose) := by
  obtain ⟨values, flags, binary, taken, pending, escaped⟩ := second
  -- All fields but the flags are compared as they are.
  simp only [quiet, Reading.mk.injEq] at same
  obtain ⟨rfl, others, rfl, rfl, rfl, rfl⟩ := same
  exact ⟨flags, rfl, others⟩

/-- No other flag is lost with the requests to say more. -/
theorem contains_eq {flags others : List Flag} (same : flags.filter (· ≠ .verbose) = others.filter (· ≠ .verbose))
    {flag : Flag} (other : flag ≠ .verbose) : flags.contains flag = others.contains flag := by
  -- Taking the requests away removes no other flag.
  have kept (flags : List Flag) : flag ∈ flags ↔ flag ∈ flags.filter (· ≠ .verbose) := by simp [other]
  rw [Bool.eq_iff_iff, List.contains_iff_mem, List.contains_iff_mem, kept flags, kept others, same]

/-- The options and the binary are the same. -/
theorem options_alike (same : first.quiet = second.quiet) :
    first.options = second.options ∧ first.binary = second.binary := by
  obtain ⟨flags, rfl, others⟩ := exists_flags same
  -- Of the flags the options look at two only, and neither is the request to say more.
  have closing : first.flags.contains .ensureClosed = flags.contains .ensureClosed := contains_eq others (by decide)
  have report : first.flags.contains .json = flags.contains .json := contains_eq others (by decide)
  refine ⟨?_, rfl⟩
  unfold options
  rw [closing, report]
  rfl

/-- Options are settled alike. -/
theorem settleOption_alike (same : first.quiet = second.quiet) (option : Valued) (value : Option (List UInt8)) :
    Alike (first.settleOption option value) (second.settleOption option value) := by
  obtain ⟨flags, rfl, others⟩ := exists_flags same
  -- Settling does not look at the flags, so either both find the fault or both go on.
  obtain ⟨error, faulty⟩ | ⟨values, settling⟩ := settleOption_cases first option value
  · rw [faulty flags first.escaped, show first.settleOption option value = _ from faulty first.flags first.escaped]
    exact .refused _
  · rw [settling flags first.escaped, show first.settleOption option value = _ from settling first.flags first.escaped]
    exact .read (by simpa [quiet] using others)

/-- What waits is settled alike. -/
theorem settle_alike (same : first.quiet = second.quiet) : Alike first.settle second.settle := by
  obtain ⟨flags, rfl, others⟩ := exists_flags same
  -- Here, too, the flags are carried along unseen.
  obtain ⟨error, faulty⟩ | ⟨values, binary, settling⟩ := settle_cases first
  · rw [faulty flags first.escaped, show first.settle = _ from faulty first.flags first.escaped]
    exact .refused _
  · rw [settling flags first.escaped, show first.settle = _ from settling first.flags first.escaped]
    exact .read (by simpa [quiet] using others)

/-- What goes on alike from readings that are alike comes to the same. -/
theorem Alike.bind {one other : Except Refusal Reading} {next : Reading → Except Refusal Reading}
    (step : ∀ {first second : Reading}, first.quiet = second.quiet → Alike (next first) (next second)) :
    Alike one other →
      Alike
        (match one with
          | .error refusal => .error refusal
          | .ok reading => next reading)
        (match other with
          | .error refusal => .error refusal
          | .ok reading => next reading) := by
  intro alike
  -- A refusal ends both, and otherwise both go on.
  cases alike with
  | refused refusal => exact .refused refusal
  | read same => exact step same

/-- Flags are taken alike. -/
theorem takeFlag_alike (same : first.quiet = second.quiet) (flag : Flag) :
    Alike (first.takeFlag flag) (second.takeFlag flag) := by
  refine Alike.bind (fun same => ?_) (settle_alike same)
  obtain ⟨flags, rfl, others⟩ := exists_flags same
  -- What waits was settled alike; now the flag itself counts.
  cases flag with
  | help => exact .refused _
  | version => exact .refused _
  | verbose => exact .read (by simpa [quiet] using others)
  | ensureClosed | json =>
    -- Whether the flag was given before is the same for both.
    dsimp only
    rw [contains_eq others (by decide)]
    split
    · exact .refused _
    · exact .read (by simpa [quiet] using others)

/-- Long options and flags are taken alike. -/
theorem takeLong_alike (same : first.quiet = second.quiet) (name : List UInt8) (attached : Option (List UInt8)) :
    Alike (first.takeLong name attached) (second.takeLong name attached) := by
  unfold takeLong
  -- Whether the name is text, and what it names, is not seen in the reading.
  cases Utf8.decode? name with
  | none => exact .refused _
  | some text =>
    dsimp only
    cases Valued.all.find? fun option => option.name = text with
    | some option =>
      refine Alike.bind (fun same => ?_) (settle_alike same)
      -- A value that came along is settled at once; otherwise the option waits for one in both readings.
      cases attached with
      | some value => exact settleOption_alike same option (some value)
      | none =>
        obtain ⟨flags, rfl, others⟩ := exists_flags same
        exact .read (by simpa [quiet] using others)
    | none =>
      dsimp only
      cases Flag.all.find? fun flag => flag.name = text with
      | none => exact .refused _
      | some flag =>
        cases attached with
        | some value => exact .refused _
        | none => exact takeFlag_alike same flag

/-- Short flags are taken alike. -/
theorem takeShort_alike (same : first.quiet = second.quiet) (rest : List UInt8) (pieces : List (Option Char)) :
    Alike (first.takeShort rest pieces) (second.takeShort rest pieces) := by
  -- The induction is on the characters that are left, each of which is one flag.
  induction pieces generalizing first second rest with
  | nil => exact .read same
  | cons piece more ih =>
    cases piece with
    | none => exact .refused _
    | some char =>
      unfold takeShort
      cases Flag.ofShort? char with
      | none => exact .refused _
      | some flag => exact Alike.bind (fun same => ih same _) (takeFlag_alike same flag)

/-- What is no option is taken alike. -/
theorem takePlain_alike (same : first.quiet = second.quiet) (argument : List UInt8) :
    Alike (first.takePlain argument) (second.takePlain argument) := by
  have settling := settle_alike same
  obtain ⟨flags, rfl, others⟩ := exists_flags same
  unfold takePlain
  dsimp only
  -- The value of an option that waits goes to that option; all else is the binary, which is taken once.
  split
  · exact .read (by simpa [quiet] using others)
  · split
    · exact .refused _
    · refine Alike.bind (fun same => ?_) settling
      obtain ⟨flags, rfl, others⟩ := exists_flags same
      exact .read (by simpa [quiet] using others)

/-- An argument is taken alike. -/
theorem take_alike (same : first.quiet = second.quiet) (argument : List UInt8) :
    Alike (first.take argument) (second.take argument) := by
  have plain := takePlain_alike same argument
  have long := takeLong_alike same
  have short := takeShort_alike same
  obtain ⟨flags, rfl, others⟩ := exists_flags same
  unfold take
  dsimp only
  -- The kind of an argument is told from its bytes and from whether only the binary may follow.
  split
  · exact plain
  · split
    · exact .read (by simpa [quiet] using others)
    · split
      · split <;> exact long _ _
      · split
        · split
          · exact short _ _
          · exact plain
        · exact plain

/-- All arguments are taken alike. -/
theorem takeAll_alike (same : first.quiet = second.quiet) (arguments : List (List UInt8)) :
    Alike (first.takeAll arguments) (second.takeAll arguments) := by
  -- The induction is on the arguments, and what waits at the end is settled alike.
  induction arguments generalizing first second with
  | nil => exact settle_alike same
  | cons argument rest ih =>
    unfold takeAll
    exact Alike.bind ih (take_alike same argument)

end Quiet

section Louder

variable {before after : List (List UInt8)}

/-- What arguments come to that differ in the requests to say more alone: perhaps another fault. -/
inductive Akin : Except Refusal Reading → Except Refusal Reading → Prop
  | faulty (error other : UsageError) : Akin (.error (.usage error)) (.error (.usage other))
  | alike {one other : Except Refusal Reading} (alike : Alike one other) : Akin one other

/-- An argument with one hyphen holds short flags. -/
theorem take_short (open_ : ¬reading.escaped = true) {first : UInt8} (short : first ≠ hyphen) (rest : List UInt8) :
    reading.take (hyphen :: first :: rest) = reading.takeShort (first :: rest) (Utf8.pieces (first :: rest)) := by
  -- The second byte keeps it from being a long option or the two hyphens alone.
  have one : ¬[hyphen, hyphen].isPrefixOf (hyphen :: first :: rest) = true := by simp [Ne.symm short]
  rw [take, if_neg open_, if_neg (by simp [short]), if_neg one, if_pos rfl]

/-- An argument with two hyphens and no value is a long option or flag. -/
theorem take_long (open_ : ¬reading.escaped = true) {name : List UInt8} (some_ : name ≠ [])
    (plain : 0x3D ∉ name) : reading.take (hyphen :: hyphen :: name) = reading.takeLong name none := by
  -- Without an equals sign all of it is the name.
  have others : ∀ byte ∈ name, decide (byte ≠ 0x3D) = true := fun byte inside =>
    decide_eq_true fun equal => plain (equal ▸ inside)
  have whole : name.span (· ≠ 0x3D) = (name, []) := by
    rw [List.span_eq_takeWhile_dropWhile, List.takeWhile_eq_self_iff.mpr others,
      List.dropWhile_eq_nil_iff.mpr (by simpa using others)]
  rw [take, if_neg open_, if_neg (by simp [some_]), if_pos (by simp), List.drop_succ_cons, List.drop_succ_cons,
    List.drop_zero, whole]

/-- The letter for a request to say more is a flag before the other ones. -/
theorem takeShort_verbose (reading : Reading) (rest : List UInt8) :
    reading.takeShort (0x76 :: rest) (Utf8.pieces (0x76 :: rest)) =
      match reading.takeFlag .verbose with
      | .error refusal => .error refusal
      | .ok reading => reading.takeShort rest (Utf8.pieces rest) := by
  -- The letter is a character of one byte, so the pieces behind it stay as they are.
  have letter : Utf8.pieces (0x76 :: rest) = some 'v' :: Utf8.pieces rest := Utf8.piecesAfter_none 0x76 rest
  rw [letter]
  rfl

/-- A request to say more is a flag in either spelling. -/
theorem take_verbose (open_ : ¬reading.escaped = true) {flag : List UInt8}
    (spelled : flag = Utf8.encode "-v" ∨ flag = Utf8.encode "--verbose") :
    reading.take flag = reading.takeFlag .verbose := by
  obtain rfl | rfl := spelled
  · -- The short spelling is one letter with none behind it.
    have bytes : Utf8.encode "-v" = [hyphen, 0x76] := by decide
    rw [bytes, take_short open_ (by decide), takeShort_verbose]
    cases reading.takeFlag .verbose <;> rfl
  · -- The long spelling is a name without a value.
    have bytes : Utf8.encode "--verbose" = hyphen :: hyphen :: Utf8.encode "verbose" := by decide
    rw [bytes, take_long open_ (by decide) (by decide), takeLong, Utf8.decode?_encode]
    rfl

/-- With one more request to say more the other arguments come to the same, or to another fault. -/
theorem takeAll_verbose (open_ : ¬reading.escaped = true) (ready : ¬reading.Awaits) {flag : List UInt8}
    (spelled : flag = Utf8.encode "-v" ∨ flag = Utf8.encode "--verbose") (after : List (List UInt8)) :
    Akin (reading.takeAll after) (reading.takeAll (flag :: after)) := by
  rw [takeAll, take_verbose open_ spelled]
  -- The flag finds at once a fault that would have been found later, and settles what has none.
  obtain ⟨error, faulty⟩ | ⟨settled, done⟩ := settle_faulty_or_done reading
  · obtain ⟨other, found⟩ := takeAll_faulty faulty ready after
    rw [found, takeFlag_faulty faulty]
    exact .faulty other error
  · rw [takeAll_settled done ready, takeFlag, done]
    exact .alike (takeAll_alike (by simp [quiet]) after)

/-- With one more letter among short flags the other arguments come to the same, or to another fault. -/
theorem takeAll_joined (open_ : ¬reading.escaped = true) {first : UInt8} (short : first ≠ hyphen) (rest : List UInt8)
    (after : List (List UInt8)) :
    Akin (reading.takeAll ((hyphen :: first :: rest) :: after))
      (reading.takeAll ((hyphen :: 0x76 :: first :: rest) :: after)) := by
  have some_ := Utf8.pieces_ne_nil first rest
  rw [takeAll, takeAll, take_short open_ short, take_short open_ (by decide), takeShort_verbose]
  -- The first of the letters settles what waits, whichever letter it is.
  obtain ⟨error, faulty⟩ | ⟨settled, done⟩ := settle_faulty_or_done reading
  · obtain ⟨other, found⟩ := takeShort_faulty faulty (first :: rest) some_
    rw [found, takeFlag_faulty faulty]
    exact .faulty other error
  · rw [takeShort_settled done _ some_, takeFlag, done]
    exact .alike (Alike.bind (fun same => takeAll_alike same after) (takeShort_alike (by simp [quiet]) _ _))

end Louder

end Reading

open Reading

/-- Arguments with one more request to say more: a flag of its own where no option waits for its value, or one more
letter in front of other short flags. -/
inductive Louder : List (List UInt8) → List (List UInt8) → Prop
  | alone (before after : List (List UInt8)) (flag : List UInt8)
      (spelled : flag = Utf8.encode "-v" ∨ flag = Utf8.encode "--verbose") (open_ : [hyphen, hyphen] ∉ before)
      (ready : ∀ option : Valued, before.getLast? ≠ some (Utf8.encode ("--" ++ option.name))) :
      Louder (before ++ after) (before ++ flag :: after)
  | joined (before after : List (List UInt8)) (first : UInt8) (rest : List UInt8)
      (open_ : [hyphen, hyphen] ∉ before) (short : first ≠ hyphen) :
      Louder (before ++ (hyphen :: first :: rest) :: after) (before ++ (hyphen :: 0x76 :: first :: rest) :: after)

/-- What is made of arguments that differ in the requests to say more alone: the same command but for its verbosity, the
same answer, or perhaps another fault. -/
inductive SameRequest : Except Refusal CommandLine → Except Refusal CommandLine → Prop
  | faulty (error other : UsageError) : SameRequest (.error (.usage error)) (.error (.usage other))
  | refused (refusal : Refusal) : SameRequest (.error refusal) (.error refusal)
  | command (binary : Path) (options : Options) (verbosity other : Nat) :
      SameRequest (.ok ⟨binary, options, verbosity⟩) (.ok ⟨binary, options, other⟩)

variable {first second : List (List UInt8)}

/-- Readings that are akin make the same request. -/
theorem sameRequest_of_akin (akin : Akin (takeAll {} first) (takeAll {} second)) :
    SameRequest (parse first) (parse second) := by
  unfold parse
  generalize takeAll {} first = one at akin ⊢
  generalize takeAll {} second = other at akin ⊢
  -- A command is made of the options, which are the same, and of the verbosity, which may differ.
  cases akin with
  | faulty error other => exact .faulty error other
  | alike alike =>
    cases alike with
    | refused refusal => exact .refused refusal
    | read same =>
      obtain ⟨options, binary⟩ := options_alike same
      dsimp only
      rw [options, binary]
      split
      · exact .refused _
      · exact .command _ _ _ _

/-- One more request to say more changes nothing of a request but its verbosity, or which fault is found. -/
theorem Louder.sameRequest (louder : Louder first second) : SameRequest (parse first) (parse second) := by
  refine sameRequest_of_akin ?_
  cases louder with
  | alone before after flag spelled open_ ready =>
    -- Both are read alike up to the place of the flag, where no option waits for a value.
    obtain ⟨refusal, refused⟩ | ⟨reached, open_', same, awaits⟩ := takeAll_append {} (by decide) open_
    · rw [refused, refused]
      exact .alike (.refused refusal)
    · rw [same, same]
      refine takeAll_verbose open_' ?_ spelled after
      intro waits
      obtain ⟨_, _, _, waiting⟩ | ⟨option, last⟩ := awaits waits
      · cases waiting
      · exact ready option last
  | joined before after first rest open_ short =>
    -- Both are read alike up to the argument with the short flags.
    obtain ⟨refusal, refused⟩ | ⟨reached, open_', same, _⟩ := takeAll_append {} (by decide) open_
    · rw [refused, refused]
      exact .alike (.refused refusal)
    · rw [same, same]
      exact takeAll_joined open_' short rest after

end ImageHeader.CommandLine
