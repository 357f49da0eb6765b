import ImageHeader.Proofs.Header.Content

/-! Closing: every copied line is ended, and the closing policy makes a difference of one line at most. -/

namespace ImageHeader

variable {source : Source} {sink rest : Sink} {transcript copied : Transcript} {lines : List Line}

namespace Transcript

/-- When copying succeeds, the last line that was copied is ended if all lines but the last one are. -/
theorem ended_of_copy {held : Option Line} (done : copy sink transcript held lines = (.ok copied, rest))
    (ended : ∀ line ∈ (held.toList ++ lines).dropLast, line.getLast? = some lineEnd)
    (before : ∀ line, transcript.last = some line → line.getLast? = some lineEnd) :
    ∀ line, copied.last = some line → line.getLast? = some lineEnd := by
  -- The induction is on the lines to come; the held line is written only when there is one behind it.
  induction lines generalizing sink transcript held with
  | nil =>
    cases done
    exact before
  | cons line more ih =>
    cases held with
    | none => exact ih done ended before
    | some previous =>
      rw [copy] at done
      cases written : sink.write previous with
      | mk result taken =>
        rw [written] at done
        cases result with
        | error cause => cases done
        | ok _ =>
          refine ih done (fun other member => ended other ?_) fun other last => ?_
          · simpa using .inr member
          · -- The last line is now the one that was held.
            obtain rfl := Option.some.inj last
            exact ended previous (by simp)

/-- Whatever is copied of whatever source, the last line that was copied is ended. -/
theorem ended_of_ofSource (done : ofSource source sink = (.ok copied, rest)) :
    ∀ line, copied.last = some line → line.getLast? = some lineEnd := by
  obtain ⟨bytes, failure⟩ := source
  rw [ofSource] at done
  split at done
  · cases done
  · rename_i transcript taken copying
    cases failure with
    | some cause => cases done
    | none =>
      cases done
      rw [Source.lines_eq_linesOf] at copying
      refine ended_of_copy copying (fun line member => ?_) (by simp [empty])
      -- The lines without the first one are all but the last of them ended, as those of any bytes.
      refine @getLast?_of_mem_dropLast_linesOf bytes line ?_
      rw [Option.toList_none, List.nil_append, List.drop_one, ← List.tail_dropLast] at member
      exact List.mem_of_mem_tail member

/-- No line has to be ended before a closing line. -/
theorem unbroken_of_ofSource (done : ofSource source sink = (.ok copied, rest)) :
    (copied.last.isSome && !copied.endsWithLineEnd) = false := by
  have ended := ended_of_ofSource done
  unfold endsWithLineEnd
  cases last : copied.last with
  | none => rfl
  | some line => simp [ended line last]

end Transcript

/-- Ended lines one after the other are ended bytes. -/
theorem Ended.flatten (ended : ∀ line ∈ lines, line.getLast? = some lineEnd) : Ended lines.flatten := by
  rcases lines.eq_nil_or_concat with rfl | ⟨front, last, rfl⟩
  · exact .inl rfl
  · -- The last byte is that of the last line.
    refine .inr ?_
    have closed := ended last (by simp)
    simp [List.getLast?_append, closed]

namespace Header

variable {config : Config} {label : String} {dump : List UInt8}

/-- How two headers around the same lines differ, one of which is to be closed in any case: not at all if the last line
closes the array, and otherwise by one closing line before the end of the guard. Either way a line before the end of the
guard of the second one closes the array. -/
structure ClosedAfter (kept : List Line) (verbatim ensured : List UInt8) : Prop where
  same : endsClosed kept = true → ensured = verbatim
  inserted : endsClosed kept = false → ∃ front, linesOf verbatim = front ++ [lineOf "#endif"] ∧
    linesOf ensured = front ++ [lineOf "\x7d;", lineOf "#endif"]
  closes : ∃ front last, linesOf ensured = front ++ [last, lineOf "#endif"] ∧
    closesArray (Utf8.decodeLossy last) = true

/-- The lines of a header up to the end of its body are ended. -/
theorem ended_body (config : Config) (label : String) (dump : List UInt8) :
    ∀ line ∈ opening config label ++ interior dump, line.getLast? = some lineEnd := by
  intro line member
  obtain opens | kept := List.mem_append.mp member
  · exact ended_opening config label line opens
  · exact getLast?_of_mem_interior kept

/-- Behind ended lines other lines are cut as they are alone. -/
theorem linesOf_flatten_append (ended : ∀ line ∈ lines, line.getLast? = some lineEnd) (behind : List Line) :
    linesOf (lines ++ behind).flatten = linesOf lines.flatten ++ linesOf behind.flatten := by
  rw [List.flatten_append, linesOf_append (Ended.flatten ended)]

/-- A body whose last line closes the array is cut off before that line. -/
theorem linesOf_body_of_closed (closed : endsClosed (interior dump) = true) :
    ∃ before last, linesOf (opening config label ++ interior dump).flatten = before ++ [last] ∧
      closesArray (Utf8.decodeLossy last) = true := by
  obtain ⟨last, final, closes⟩ : ∃ last, (interior dump).getLast? = some last ∧
      closesArray (Utf8.decodeLossy last) = true := by
    unfold endsClosed at closed
    cases final : (interior dump).getLast? with
    | none => simp [final] at closed
    | some last => exact ⟨last, rfl, by simpa [final] using closed⟩
  obtain ⟨before, split⟩ := List.getLast?_eq_some_iff.mp final
  have ended := ended_body config label dump
  have member : last ∈ interior dump := List.mem_of_getLast? final
  -- The last line of the body has its line end and no other one.
  have alone : linesOf [last].flatten = [last] := by
    refine (linesOf_flatten ?_).mpr ?_
    · simpa using getLast?_of_mem_interior member
    · unfold interior at member
      simpa using lineEnd_notMem_dropLast (List.mem_of_mem_tail (List.dropLast_subset _ member))
  refine ⟨linesOf (opening config label ++ before).flatten, last, ?_, closes⟩
  rw [split, ← List.append_assoc] at ended ⊢
  rw [linesOf_flatten_append (fun line first => ended line (List.mem_append_left _ first)), alone]

/-- Around the lines that are kept of a dump the policy makes a difference of one closing line at most. -/
theorem closedAfter_around (config : Config) (label : String) (dump : List UInt8) :
    ClosedAfter (interior dump) (around { config with closing := .verbatim } label (interior dump))
      (around { config with closing := .ensure } label (interior dump)) := by
  have ended := ended_body config label dump
  -- Guard, comment and declaration are the same under either policy.
  have plain : around { config with closing := .verbatim } label (interior dump) =
      (opening config label ++ interior dump ++ [lineOf "#endif"]).flatten := by
    rw [around, linesAround, if_neg (by simp), List.append_nil]
    rfl
  have kept (closed : endsClosed (interior dump) = true) :
      around { config with closing := .ensure } label (interior dump) =
        (opening config label ++ interior dump ++ [lineOf "#endif"]).flatten := by
    rw [around_of_closed _ _ closed]
    rfl
  have added (open_ : endsClosed (interior dump) = false) :
      around { config with closing := .ensure } label (interior dump) =
        (opening config label ++ interior dump ++ [lineOf "\x7d;", lineOf "#endif"]).flatten := by
    rw [around, linesAround, if_pos ⟨rfl, open_⟩, List.append_assoc _ [lineOf "\x7d;"]]
    rfl
  have single : linesOf [lineOf "#endif"].flatten = [lineOf "#endif"] := by decide +kernel
  have both : linesOf [lineOf "\x7d;", lineOf "#endif"].flatten = [lineOf "\x7d;", lineOf "#endif"] := by
    decide +kernel
  refine ⟨fun closed => (kept closed).trans plain.symm,
    fun open_ => ⟨linesOf (opening config label ++ interior dump).flatten, ?_, ?_⟩, ?_⟩
  · rw [plain, linesOf_flatten_append ended, single]
  · rw [added open_, linesOf_flatten_append ended, both]
  · cases state : endsClosed (interior dump) with
    | true =>
      -- The last line of the body closes the array.
      obtain ⟨before, last, cut, closes⟩ := @linesOf_body_of_closed config label dump state
      exact ⟨before, last, by rw [kept state, linesOf_flatten_append ended, single, cut]; simp, closes⟩
    | false =>
      -- The closing line does.
      exact ⟨linesOf (opening config label ++ interior dump).flatten, lineOf "\x7d;",
        by rw [added state, linesOf_flatten_append ended, both], by decide +kernel⟩

end Header

end ImageHeader
