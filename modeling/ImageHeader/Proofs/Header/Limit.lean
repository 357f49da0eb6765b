import ImageHeader.Proofs.Header.Closing
import Mathlib.Data.List.Infix

/-!
Limits: what a sink that runs out of room has taken when a run ends.

A run that writes piece by piece leaves in a sink with a limit the first bytes of what it leaves in one without, and it
is refused exactly where there is more. Of a dump that breaks off the lines between the first and the last of those that
were ended are copied, and these are copied however the dump would have gone on.
-/

namespace ImageHeader

namespace Sink

variable {α β : Type}

/-- One run, and then another one unless the first failed. -/
def andThen (first : Sink → Except IoError α × Sink) (second : α → Sink → Except IoError β × Sink) (sink : Sink) :
    Except IoError β × Sink :=
  match first sink with
  | (.error error, sink) => (.error error, sink)
  | (.ok value, sink) => second value sink

/-- A run that comes to a result and writes a text, as far as there is room. -/
structure Writes (run : Sink → Except IoError α × Sink) (text : List UInt8) (result : Except IoError α) : Prop where
  /-- A sink without a limit takes the whole text, behind what it has taken before. -/
  unlimited : ∀ taken refusal,
    run ⟨taken, none, refusal⟩ = (result, ⟨taken ++ text, none, refusal⟩)
  /-- A sink with a limit takes the first bytes of the text, and it is the one to fail exactly if there are more. -/
  limited : ∀ taken limit refusal,
    run ⟨taken, some limit, refusal⟩ =
      (if text.length ≤ limit then result else .error refusal,
        ⟨taken ++ text.take limit, some (limit - text.length), refusal⟩)

/-- Two texts are taken one after the other. -/
theorem append_taken (taken : Array UInt8) (text more : List UInt8) :
    taken ++ text ++ more = taken ++ (text ++ more) := by
  apply Array.ext'
  simp

/-- A run that writes nothing more has its result, whatever room there is. -/
theorem writes_nothing (result : Except IoError α) : Writes (fun sink => (result, sink)) [] result where
  unlimited taken refusal := by simp
  limited taken limit refusal := by simp

/-- What one run writes comes before what the next one writes, and the next one has the room that is left. -/
theorem Writes.andThen {first : Sink → Except IoError α × Sink} {second : α → Sink → Except IoError β × Sink}
    {text more : List UInt8} {value : α} {result : Except IoError β} (before : Writes first text (.ok value))
    (behind : Writes (second value) more result) : Writes (andThen first second) (text ++ more) result where
  unlimited taken refusal := by
    -- Without a limit the first run does not fail.
    simp only [Sink.andThen, before.unlimited, behind.unlimited, append_taken]
  limited taken limit refusal := by
    have lengths : (text ++ more).length = text.length + more.length := List.length_append
    have cut : (text ++ more).take limit = text.take limit ++ more.take (limit - text.length) := List.take_append
    simp only [Sink.andThen, before.limited]
    by_cases fits : text.length ≤ limit
    · -- What is left of the room decides about the second run.
      have both : more.length ≤ limit - text.length ↔ (text ++ more).length ≤ limit := by omega
      have rest : limit - text.length - more.length = limit - (text ++ more).length := by omega
      simp only [if_pos fits, behind.limited, both, rest, cut, append_taken]
    · -- The first run is refused, and the second one does not begin.
      have neither : ¬(text ++ more).length ≤ limit := by omega
      have full : limit - text.length = 0 := by omega
      have rest : limit - (text ++ more).length = 0 := by omega
      simp only [if_neg fits, if_neg neither, full, rest, cut, List.take_zero, List.append_nil]

/-- Bytes are written as far as there is room. -/
theorem writes_write (bytes : List UInt8) : Writes (·.write bytes) bytes (.ok ()) where
  unlimited taken refusal := rfl
  limited taken limit refusal := by
    -- Either all of it fits, or the room is used up.
    by_cases fits : bytes.length ≤ limit
    · simp only [write, if_pos fits, List.take_of_length_le fits]
    · have full : limit - bytes.length = 0 := by omega
      simp only [write, if_neg fits, full]

/-- Pieces are written one after the other as far as there is room. -/
theorem writes_writeAll (pieces : List (List UInt8)) : Writes (·.writeAll pieces) pieces.flatten (.ok ()) := by
  induction pieces with
  | nil => exact writes_nothing (.ok ())
  | cons piece rest ih =>
    -- Several pieces are one piece and then the others.
    have steps : (·.writeAll (piece :: rest)) = andThen (·.write piece) fun _ => (·.writeAll rest) := by
      funext sink
      rw [writeAll, andThen]
      rcases sink.write piece with ⟨_ | _, _⟩ <;> rfl
    rw [steps, List.flatten_cons]
    exact (writes_write piece).andThen ih

end Sink

open Sink (Writes andThen)

section Breaking

variable {dump more : List UInt8} {line : Line} {failure : IoError}

/-- The lines of a dump that have their line end. -/
def endedLines (dump : List UInt8) : List Line := (linesOf dump).filter fun line => line.getLast? = some lineEnd

/-- Cutting a dump leaves an open line without a line end, and before it the ended lines. -/
theorem foldl_cut_ended (bytes open_ : List UInt8) (ended : List Line) (inside : lineEnd ∉ open_)
    (closed : ∀ line ∈ ended, line.getLast? = some lineEnd) {rest : List UInt8} {lines : List Line}
    (cut : bytes.foldl Source.cut (open_, ended) = (rest, lines)) :
    lineEnd ∉ rest ∧ ∀ line ∈ lines, line.getLast? = some lineEnd := by
  -- The induction is on the bytes; only a line end moves the open line to the ended ones.
  induction bytes generalizing open_ ended with
  | nil =>
    cases cut
    exact ⟨inside, closed⟩
  | cons byte more ih =>
    rw [List.foldl_cons, Source.cut] at cut
    dsimp only at cut
    by_cases ends : byte = lineEnd
    · rw [if_pos ends] at cut
      refine ih [] _ (by simp) (fun line member => ?_) cut
      rcases List.mem_cons.mp member with rfl | before
      · rw [ends, List.reverse_cons, List.getLast?_concat]
      · exact closed line before
    · rw [if_neg ends] at cut
      refine ih _ ended (fun member => ?_) closed cut
      rcases List.mem_cons.mp member with same | before
      · exact ends same.symm
      · exact inside before

/-- A dump is its ended lines and an open line, which goes on with what follows; a source that fails gives the ended
lines alone. -/
theorem exists_open (dump : List UInt8) : ∃ rest, lineEnd ∉ rest ∧
    (∀ more, linesOf (dump ++ more) = endedLines dump ++ linesOf (rest ++ more)) ∧
    ∀ failure, (⟨dump, some failure⟩ : Source).lines = endedLines dump := by
  rcases cut : dump.foldl Source.cut ([], []) with ⟨rest, lines⟩
  have whole := foldl_cut dump [] [] (by simp) cut
  obtain ⟨inside, closed⟩ := foldl_cut_ended dump [] [] (by simp) (by simp) cut
  rw [List.reverse_nil, List.reverse_nil, List.nil_append, List.nil_append] at whole
  have closed : ∀ line ∈ lines.reverse, line.getLast? = some lineEnd := fun line member =>
    closed line (List.mem_reverse.mp member)
  -- Of all lines only the open one has no line end.
  have kept : lines.reverse.filter (fun line => line.getLast? = some lineEnd) = lines.reverse :=
    List.filter_eq_self.mpr fun line member => decide_eq_true (closed line member)
  have left : endedLines dump = lines.reverse := by
    rw [endedLines, ← whole]
    split
    · exact kept
    · have unended : ¬rest.reverse.getLast? = some lineEnd := fun last =>
        inside (List.mem_reverse.mp (List.mem_of_getLast? last))
      rw [List.reverse_cons, List.filter_append, kept]
      simpa using unended
  refine ⟨rest.reverse, by simpa using inside, fun more => ?_, fun failure => ?_⟩
  · have bytes : dump = lines.reverse.flatten ++ rest.reverse := by
      rw [← flatten_linesOf dump, ← whole]
      split
      · rename_i none
        simp [none]
      · simp
    -- The ended lines are cut again as they were.
    have again : linesOf lines.reverse.flatten = lines.reverse := by
      refine (linesOf_flatten closed).mpr fun line member => ?_
      rw [← left] at member
      exact lineEnd_notMem_dropLast (List.mem_filter.mp member).1
    rw [bytes, List.append_assoc, linesOf_append (Ended.flatten closed), again, ← bytes, left]
  · simp [Source.lines, cut, left]

/-- What is copied of a source is copied as well where its bytes go on. -/
theorem prefix_interior (source : Source) (more : List UInt8) :
    source.lines.tail.dropLast <+: interior (source.bytes ++ more) := by
  obtain ⟨dump, failure⟩ := source
  obtain ⟨rest, inside, longer, broken⟩ := exists_open dump
  rw [interior, ← List.tail_dropLast, ← List.tail_dropLast, ← List.drop_one, ← List.drop_one]
  apply List.IsPrefix.drop
  have bare : (endedLines dump).dropLast <+: (linesOf (dump ++ more)).dropLast := by
    rw [longer more]
    by_cases none : linesOf (rest ++ more) = []
    · rw [none, List.append_nil]
    · rw [List.dropLast_append_of_ne_nil none]
      exact (List.dropLast_prefix _).trans (List.prefix_append _ _)
  cases failure with
  | some failure => rwa [broken failure]
  | none =>
    have alone := longer []
    rw [List.append_nil, List.append_nil] at alone
    rw [Source.lines_eq_linesOf, alone]
    -- An open line is the one that is held back, whatever becomes of it.
    by_cases empty : rest = []
    · rwa [empty, linesOf, List.append_nil]
    · have filled : linesOf (rest ++ more) ≠ [] := by simp [empty]
      rw [linesOf_open rest empty inside, List.dropLast_concat, longer more, List.dropLast_append_of_ne_nil filled]
      exact List.prefix_append _ _

end Breaking

namespace Transcript

/-- Copying writes the lines to come but the last, and the held line before them. -/
theorem writes_copy (transcript : Transcript) (held : Option Line) (lines : List Line) :
    Writes (copy · transcript held lines) (held.toList ++ lines).dropLast.flatten
      (.ok ((held.toList ++ lines).dropLast.foldl add transcript)) := by
  -- The induction is on the lines to come; each of them lets the held one be written.
  induction lines generalizing transcript held with
  | nil => cases held <;> exact Sink.writes_nothing (.ok transcript)
  | cons line rest ih =>
    cases held with
    | none => exact ih transcript (some line)
    | some previous =>
      have steps : (copy · transcript (some previous) (line :: rest)) =
          andThen (·.write previous) fun _ => (copy · (transcript.add previous) (some line) rest) := by
        funext sink
        rw [copy, andThen]
        rcases sink.write previous with ⟨_ | _, _⟩ <;> rfl
      rw [steps]
      exact (Sink.writes_write previous).andThen (ih (transcript.add previous) (some line))

/-- What a run over a source comes to when its lines are copied: a failure of the source is told in the end. -/
def settled (source : Source) (transcript : Transcript) : Except IoError Transcript :=
  match source.failure with
  | some failure => .error failure
  | none => .ok transcript

/-- What is copied of a source is what lies between its first and its last line. -/
theorem writes_ofSource (source : Source) :
    Writes (ofSource source) source.lines.tail.dropLast.flatten
      (settled source (ofLines source.lines.tail.dropLast)) := by
  have copied := writes_copy empty none (source.lines.drop 1)
  have added : source.lines.tail.dropLast.foldl add empty = ofLines source.lines.tail.dropLast :=
    foldl_add source.lines.tail.dropLast []
  rw [Option.toList_none, List.nil_append, List.drop_one, added] at copied
  -- Copying comes first; only then the source tells whether it failed.
  have steps : ofSource source =
      andThen (copy · empty none (source.lines.drop 1)) fun transcript sink => (settled source transcript, sink) := by
    funext sink
    rw [ofSource, andThen]
    rcases copy sink empty none (source.lines.drop 1) with ⟨_ | _, _⟩
    · rfl
    · cases failure : source.failure <;> simp [settled, failure]
  rw [steps, List.drop_one, ← List.append_nil source.lines.tail.dropLast.flatten]
  exact copied.andThen (Sink.writes_nothing (settled source _))

end Transcript

namespace Header

/-- The lines around a dump without one between them, written part by part. -/
def writeFrame (config : Config) (label : String) : Sink → Except IoError Unit × Sink :=
  andThen (·.writeAll (prologue config)) fun _ =>
    andThen (·.writeAll (declaration config label)) fun _ => (·.writeAll epilogue)

/-- The text of these lines. -/
def frame (config : Config) (label : String) : List UInt8 :=
  (prologue config ++ declaration config label ++ epilogue).flatten

/-- A sink that runs out of room takes the first bytes of what one without a limit takes, of a frame and of a dump. A
dump whose source fails is copied up to the last but one of its ended lines, and the failure is told unless the sink has
been the first to fail. Whether a source fails or not, and whether the sink does, what is copied is copied first of any
dump that goes on from there. -/
theorem faithful_limit (config : Config) (label : String) (dump : List UInt8) :
    Writes (writeFrame config label) (frame config label) (.ok ()) ∧
    Writes (Transcript.ofSource ⟨dump, none⟩) (interior dump).flatten (.ok (.ofLines (interior dump))) ∧
    (∀ failure, Writes (Transcript.ofSource ⟨dump, some failure⟩) (endedLines dump).tail.dropLast.flatten
      (.error failure)) ∧
    ∀ failure taken limit refusal more,
      (Transcript.ofSource ⟨dump, failure⟩ ⟨taken, limit, refusal⟩).2.accepted.toList <+:
        (Transcript.ofSource ⟨dump ++ more, none⟩ ⟨taken, none, refusal⟩).2.accepted.toList := by
  refine ⟨?frame, ?whole, fun failure => ?broken, fun failure taken limit refusal more => ?continued⟩
  case frame =>
    rw [frame, List.flatten_append, List.flatten_append, List.append_assoc]
    exact Writes.andThen (Sink.writes_writeAll (prologue config))
      (Writes.andThen (Sink.writes_writeAll (declaration config label)) (Sink.writes_writeAll epilogue))
  case whole =>
    have copied := Transcript.writes_ofSource ⟨dump, none⟩
    rwa [Source.lines_eq_linesOf] at copied
  case broken =>
    obtain ⟨_, _, _, lines⟩ := exists_open dump
    have copied := Transcript.writes_ofSource ⟨dump, some failure⟩
    rwa [lines failure] at copied
  case continued =>
    have written := Transcript.writes_ofSource ⟨dump, failure⟩
    have longer := Transcript.writes_ofSource ⟨dump ++ more, none⟩
    rw [longer.unlimited, Source.lines_eq_linesOf]
    have first := (prefix_interior ⟨dump, failure⟩ more).flatten
    rw [interior] at first
    -- Cut or not, what was taken before stands in front.
    cases limit with
    | none =>
      rw [written.unlimited]
      simpa using first
    | some limit =>
      rw [written.limited]
      simpa using (List.take_prefix limit _).trans first

end Header

end ImageHeader
