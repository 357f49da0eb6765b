import ImageHeader.Proofs.Command.Influence
import ImageHeader.Proofs.Config.RoundTrip
import ImageHeader.Proofs.Header.Transcription
import ImageHeader.Proofs.Text.Lossy
import Mathlib.Data.List.DropRight
import Mathlib.Data.List.Forall2

/-!
External dumps: what a program prints, and what is kept of it once it was read as text.

The bytes are mended before they are stored, and the last line is read once more. A line end is ASCII, so that mending
and cutting into lines commute, and mended bytes are read as what they were mended from.
-/

namespace ImageHeader

open Utf8 (encode decodeLossy mend Lossy Seam)

variable {bytes : List UInt8} {line : Line} {lines : List Line}

section Lines

/-- There is a seam behind a line end. -/
theorem seam_of_ended (ended : line.getLast? = some lineEnd) (rest : List UInt8) : Seam line rest := by
  -- A line end is ASCII, and no sequence goes on behind it.
  intro before after last _
  rw [ended, Option.some_inj] at last
  exact .inl (last ▸ by decide)

/-- A line end needs no mending. -/
theorem mend_lineEnd : mend [lineEnd] = [lineEnd] := Utf8.mend_encode "\n"

/-- Mending makes no line end, and takes none away. -/
theorem lineEnd_mem_mend : lineEnd ∈ mend bytes ↔ lineEnd ∈ bytes :=
  @Utf8.mem_mend_iff bytes '\n' (by decide)

/-- A mended line has its line end where the line has. -/
theorem mend_ended (open_ : List UInt8) : mend (open_ ++ [lineEnd]) = mend open_ ++ [lineEnd] := by
  have seam : Seam open_ [lineEnd] := by
    intro before after _ first
    obtain rfl : lineEnd = after := by simpa using first
    exact .inr (by decide)
  rw [Utf8.mend_append seam, mend_lineEnd]

/-- Lines of which all but the last are ended are mended one by one. -/
theorem mend_flatten (ended : ∀ line ∈ lines.dropLast, line.getLast? = some lineEnd) :
    mend lines.flatten = (lines.map mend).flatten := by
  -- The induction is on the lines; behind each line that is ended there is a seam.
  induction lines with
  | nil => exact Utf8.mend_encode ""
  | cons line rest ih =>
    cases rest with
    | nil => simp
    | cons next more =>
      have first : line.getLast? = some lineEnd := ended line (by simp)
      have others := ih fun other member => ended other (by simpa using .inr (by simpa using member))
      rw [List.flatten_cons, Utf8.mend_append (seam_of_ended first _), others, ← List.flatten_cons, ← List.map_cons]

/-- Mended bytes are cut into the mended lines. -/
theorem CutInto.mend (cut : CutInto bytes lines) : CutInto (mend bytes) (lines.map mend) where
  whole := by rw [← cut.whole, mend_flatten cut.ended]
  ended line member := by
    rw [← List.map_dropLast, List.mem_map] at member
    obtain ⟨raw, standing, rfl⟩ := member
    obtain ⟨open_, rfl⟩ := List.getLast?_eq_some_iff.mp (cut.ended raw standing)
    rw [mend_ended, List.getLast?_concat]
  inside line member := by
    obtain ⟨raw, standing, rfl⟩ := List.mem_map.mp member
    have inside : lineEnd ∉ raw.dropLast := cut.inside raw standing
    by_cases ended : raw.getLast? = some lineEnd
    · obtain ⟨open_, rfl⟩ := List.getLast?_eq_some_iff.mp ended
      rw [List.dropLast_concat] at inside
      rwa [mend_ended, List.dropLast_concat, lineEnd_mem_mend]
    · -- An open line has no line end at all, and neither has what it is mended to.
      intro within
      have somewhere : lineEnd ∈ raw := lineEnd_mem_mend.mp (List.dropLast_subset _ within)
      have filled : raw ≠ [] := cut.filled raw standing
      rw [← List.dropLast_concat_getLast filled, List.mem_append, List.mem_singleton] at somewhere
      obtain before | last := somewhere
      · exact inside before
      · exact ended (by rw [List.getLast?_eq_some_getLast filled, ← last])
  filled line member := by
    obtain ⟨raw, standing, rfl⟩ := List.mem_map.mp member
    exact Utf8.mend_ne_nil (cut.filled raw standing)

/-- What is kept of mended bytes is what is kept of the bytes, mended line by line. -/
theorem interior_mend (bytes : List UInt8) : interior (mend bytes) = (interior bytes).map mend := by
  rw [interior, ← (cutInto_linesOf bytes).mend.eq_linesOf, interior, ← List.map_tail, List.map_dropLast]

end Lines

section Judging

/-- Whether a byte belongs to a line end. -/
def endsByte (byte : UInt8) : Bool := byte = lineEnd || byte = 0x0D

/-- What is left of a line without the line feeds and carriage returns at its end. -/
def bareLine (line : Line) : List UInt8 := line.rdropWhile endsByte

/-- Such bytes are read as what they stand for. -/
theorem eq_of_mem_decodeLossy_ending {ending : List UInt8} (all : ∀ byte ∈ ending, endsByte byte = true) :
    ∀ char ∈ (decodeLossy ending).toList, char = '\n' ∨ char = '\r' := by
  -- The induction is on the bytes; each of them is ASCII, and so is read apart.
  induction ending with
  | nil => exact fun char member => nomatch member
  | cons byte rest ih =>
    have kinds : byte = lineEnd ∨ byte = 0x0D := by simpa [endsByte] using all byte List.mem_cons_self
    have seam : Seam [byte] rest := by
      intro before after last _
      obtain rfl : byte = before := by simpa using last
      exact .inl (by rcases kinds with rfl | rfl <;> decide)
    have split : decodeLossy (byte :: rest) = decodeLossy [byte] ++ decodeLossy rest := Utf8.decodeLossy_append seam
    intro char member
    rw [split, String.toList_append, List.mem_append] at member
    obtain first | behind := member
    · obtain rfl | rfl := kinds
      · exact .inl (List.mem_singleton.mp first)
      · exact .inr (List.mem_singleton.mp first)
    · exact ih (fun other member => all other (List.mem_cons_of_mem _ member)) char behind

/-- The text of a line is what is read of it without its ending. -/
theorem decodeLossy_bareLine (line : Line) : decodeLossy (bareLine line) = Transcript.lineText line := by
  have split : bareLine line ++ line.rtakeWhile endsByte = line := List.rdropWhile_append_rtakeWhile
  -- The ending begins with an ASCII byte, and so it is read apart from the rest.
  have seam : Seam (bareLine line) (line.rtakeWhile endsByte) := by
    intro before after _ first
    have ends := List.mem_rtakeWhile_imp (List.mem_of_head? first)
    have kinds : after = lineEnd ∨ after = 0x0D := by simpa [endsByte] using ends
    exact .inr (by rcases kinds with rfl | rfl <;> decide)
  have apart := Utf8.decodeLossy_append seam
  rw [split] at apart
  refine Transcript.WithoutEnding.eq_lineText ⟨⟨_, apart, ?_⟩, fun char last => ?_⟩
  · exact eq_of_mem_decodeLossy_ending fun byte member => List.mem_rtakeWhile_imp member
  · -- A character that ends a line would be the last byte that is left.
    have stops (ascii : Char) (small : ascii.toNat < 0x80) (ends : endsByte (UInt8.ofNat ascii.toNat) = true) :
        char ≠ ascii := by
      rintro rfl
      have byte := (Utf8.lossy_iff.mpr rfl).getLast?_eq small last
      have filled : bareLine line ≠ [] := by
        intro none
        simp [none] at byte
      rw [List.getLast?_eq_some_getLast filled, Option.some_inj] at byte
      exact List.rdropWhile_last_not endsByte line filled (byte ▸ ends)
    exact ⟨stops '\n' (by decide) (by decide), stops '\r' (by decide) (by decide)⟩

/-- A line that was mended is read as before. -/
theorem lineText_mend (line : Line) : Transcript.lineText (mend line) = Transcript.lineText line := by
  rw [Transcript.lineText, mend, Utf8.decodeLossy_encode, Transcript.lineText]

/-- Characters are left when blank ones are trimmed exactly if there is nothing else around them. -/
theorem Blank.trimChars_eq_iff {chars : List Char} {first last : Char} {inner : List Char}
    (begins : isBlank first = false) (ends : isBlank last = false) :
    trimChars chars = first :: (inner ++ [last]) ↔
      ∃ before after, (∀ char ∈ before, isBlank char = true) ∧ (∀ char ∈ after, isBlank char = true) ∧
        chars = before ++ first :: (inner ++ [last]) ++ after := by
  constructor
  · intro trimmed
    obtain ⟨after, split, blank⟩ := exists_dropTrailing isBlank (chars.dropWhile isBlank)
    refine ⟨chars.takeWhile isBlank, after, fun char member => List.mem_takeWhile_imp member, blank, ?_⟩
    rw [← trimmed, trimChars, List.append_assoc, ← split, List.takeWhile_append_dropWhile]
  · rintro ⟨before, after, blank, blank', rfl⟩
    -- From either end the blanks are dropped, and nothing more.
    have front : before.dropWhile isBlank = [] := List.dropWhile_eq_nil_iff.mpr blank
    rw [trimChars, List.append_assoc, List.dropWhile_append, front, List.isEmpty_nil, if_pos rfl, List.cons_append,
      List.dropWhile_cons_of_neg (by simp [begins]), ← List.cons_append, dropTrailing_append _ blank']
    simp [dropTrailing, ends]

/-- A line that is a closing brace and a semicolon with nothing but blanks around them. -/
def ClosingLine (line : Line) : Prop :=
  ∃ before after : String, (∀ char ∈ before.toList, Blank.isBlank char = true) ∧
    (∀ char ∈ after.toList, Blank.isBlank char = true) ∧ line = encode (before ++ "\x7d;" ++ after)

/-- What is read of a line closes an array exactly if its bytes do. -/
theorem closesArray_decodeLossy (line : Line) : closesArray (decodeLossy line) = true ↔ ClosingLine line := by
  -- Closing is said of the characters that are left when blanks are trimmed.
  have closes : closesArray (decodeLossy line) = true ↔
      Blank.trimChars (decodeLossy line).toList = '\x7d' :: ([] ++ [';']) := by
    rw [closesArray, decide_eq_true_iff, Blank.trim, ← String.toList_inj, String.toList_ofList]
    rfl
  rw [closes, Blank.trimChars_eq_iff (by decide) (by decide)]
  constructor
  · rintro ⟨before, after, blank, blank', whole⟩
    refine ⟨String.ofList before, String.ofList after, by simpa using blank, by simpa using blank', ?_⟩
    -- The mark is neither blank nor one of the two characters, so that nothing was malformed.
    have unmarked : '\uFFFD' ∉ (decodeLossy line).toList := by
      have solid : Blank.isBlank '\uFFFD' = false := by decide
      rw [whole]
      simp only [List.mem_append, List.mem_cons, List.nil_append, List.not_mem_nil, not_or]
      refine ⟨⟨fun member => ?_, by decide, by decide, not_false⟩, fun member => ?_⟩
      · simp [blank _ member] at solid
      · simp [blank' _ member] at solid
    rw [← Utf8.encode_decodeLossy unmarked]
    congr 1
    rw [← String.toList_inj, whole]
    simp
  · rintro ⟨before, after, blank, blank', rfl⟩
    refine ⟨before.toList, after.toList, blank, blank', ?_⟩
    rw [Utf8.decodeLossy_encode, String.toList_append, String.toList_append]
    rfl

/-- Lines that were mended are closed exactly if the last of them closes an array. -/
theorem endsClosed_map_mend (lines : List Line) :
    endsClosed (lines.map mend) = true ↔ ∃ line, lines.getLast? = some line ∧ ClosingLine line := by
  rw [endsClosed, List.getLast?_map]
  cases lines.getLast? with
  | none => simp
  | some line =>
    -- What was mended is read as before.
    have read : decodeLossy (mend line) = decodeLossy line := Utf8.decodeLossy_encode _
    simp [read, closesArray_decodeLossy]

end Judging

namespace External

/-- Bytes that are those of the text that is read of others. -/
def ReadAs (raw shown : List UInt8) : Prop := ∃ text : String, Lossy raw text.toList ∧ shown = encode text

/-- Bytes are read as what they are mended to. -/
theorem readAs_mend (raw : List UInt8) : ReadAs raw (mend raw) := ⟨_, Utf8.lossy_iff.mpr rfl, rfl⟩

/-- What is kept of a dump that was read as text, and what is told of it, against the lines of its bytes. -/
structure Kept (dump written : List UInt8) (transcript : Transcript) : Prop where
  /-- What lies between the first line and the last one is kept as it is read. -/
  whole : ReadAs (interior dump).flatten written
  /-- Each of these lines is kept as a line. -/
  apart : List.Forall₂ ReadAs (interior dump) (linesOf written)
  /-- They are counted. -/
  count : transcript.lines = (interior dump).length
  /-- No last line is told where there are none. -/
  absent : transcript.lastLine? = none ↔ interior dump = []
  /-- Otherwise it is what is read of the last of them, but for the bytes at its end. -/
  last : ∀ line, (interior dump).getLast? = some line →
    ∃ text, transcript.lastLine? = some text ∧ Lossy (bareLine line) text.toList
  /-- The array is closed exactly if the bytes of the last of them close it. -/
  closed : transcript.isClosed = true ↔ ∃ line, (interior dump).getLast? = some line ∧ ClosingLine line
  /-- Of a text the lines are kept byte by byte. -/
  faithful : (∃ text, dump = encode text) → written = (interior dump).flatten

/-- What is kept of a mended dump is kept of the dump. -/
theorem kept_mend (dump : List UInt8) :
    Kept dump (interior (mend dump)).flatten (.ofLines (interior (mend dump))) := by
  have ended : ∀ line ∈ interior dump, line.getLast? = some lineEnd := fun line member =>
    getLast?_of_mem_interior member
  have whole : (interior (mend dump)).flatten = mend (interior dump).flatten := by
    rw [interior_mend, mend_flatten fun line member => ended line (List.dropLast_subset _ member)]
  -- Kept lines are ended and cut at their ends, so that they can be cut again.
  have cut : linesOf (interior (mend dump)).flatten = interior (mend dump) := by
    refine (linesOf_flatten fun line member => getLast?_of_mem_interior member).mpr fun line member => ?_
    exact lineEnd_notMem_dropLast (List.mem_of_mem_tail (List.dropLast_subset _ member))
  -- The last line is read twice, which changes nothing more.
  have told : (Transcript.ofLines (interior (mend dump))).lastLine? =
      (interior dump).getLast?.map Transcript.lineText := by
    have again : Transcript.lineText ∘ mend = Transcript.lineText := funext lineText_mend
    rw [interior_mend, Transcript.lastLine?, Transcript.ofLines, List.getLast?_map, Option.map_map, again]
  refine ⟨whole ▸ readAs_mend _, ?apart, ?count, ?absent, ?last, ?closed, ?faithful⟩
  case apart =>
    rw [cut, interior_mend, List.forall₂_map_right_iff, List.forall₂_same]
    exact fun line _ => readAs_mend line
  case count => rw [interior_mend, Transcript.ofLines, List.length_map]
  case absent => rw [told, Option.map_eq_none_iff, List.getLast?_eq_none_iff]
  case last =>
    intro line last
    exact ⟨Transcript.lineText line, by rw [told, last, Option.map_some],
      Utf8.lossy_iff.mpr (by rw [decodeLossy_bareLine])⟩
  case closed => rw [Transcript.isClosed_ofLines, interior_mend, endsClosed_map_mend]
  case faithful =>
    rintro ⟨text, rfl⟩
    rw [Utf8.mend_encode]

/-- Where a program succeeds, its output is taken as text; once the text was stored in a file and is copied from there,
the lines of the output but the first and the last are kept as they are read. -/
theorem dump_kept {host after other opened : Host} {program input path : Path} {completion : Completion}
    {place : Location} {content : List UInt8} {executable : Bool}
    (ended : (host.log (.starting program input)).spawn program [encode "-i", input.bytes] = .ok (completion, after))
    (succeeded : completion.status.succeeded = true) (created : other.create path = .ok (opened, place))
    (file : opened.tree.lookup place = some (.file content executable)) (taken : Array UInt8) (refusal : IoError) :
    ∃ text stored bytes written transcript sink, (dumper program).dump host input = (.ok text, after) ∧
      opened.write place (encode text) = .ok stored ∧ stored.read path = .ok bytes ∧
      Transcript.ofSource ⟨bytes, none⟩ ⟨taken, none, refusal⟩ = (.ok transcript, sink) ∧
      sink.accepted.toList = taken.toList ++ written ∧ Kept completion.output written transcript := by
  have dumped : (dumper program).dump host input = (.ok (decodeLossy completion.output), after) := by
    simp only [dumper, ended, succeeded, if_true]
  -- What is stored is the mended output, and it is read back byte by byte.
  obtain ⟨stored, storing, held⟩ := Host.exists_read_of_create created file (mend completion.output)
  exact ⟨_, stored, _, _, _, _, dumped, storing, held, Transcript.ofSource_extend rfl _, Sink.toList_extend _ _,
    kept_mend completion.output⟩

/-- A host with a program that prints a line with the first two of three bytes. -/
def brokenHost : Host where
  tree := ⟨[([encode "image.bin"], .file [1] false), ([encode "bin"], .directory),
    ([encode "bin", encode "sh"], .special .shell),
    ([encode "tool"], .file (encode "#!/bin/sh\necho 'x\n" ++ [0xE2, 0x82] ++ encode "\n\x7d;\nx'\n") true)]⟩
  workingDirectory := []
  environment := []
  events := []

/-- With that program two lines are kept, of which the second closes the array. -/
theorem dump_kept_broken : ∃ completion after opened text stored bytes written transcript sink,
    (brokenHost.log (.starting (.ofText "/tool") (.ofText "image.bin"))).spawn (.ofText "/tool")
      [encode "-i", (Path.ofText "image.bin").bytes] = .ok (completion, after) ∧
    completion.status.succeeded = true ∧ after.create (.ofText "temp.h") = .ok (opened, [encode "temp.h"]) ∧
    opened.tree.lookup [encode "temp.h"] = some (.file [] false) ∧
    (dumper (.ofText "/tool")).dump brokenHost (.ofText "image.bin") = (.ok text, after) ∧
    opened.write [encode "temp.h"] (encode text) = .ok stored ∧ stored.read (.ofText "temp.h") = .ok bytes ∧
    Transcript.ofSource ⟨bytes, none⟩ .unlimited = (.ok transcript, sink) ∧
    sink.accepted.toList = written ∧ Kept completion.output written transcript ∧
    interior completion.output = [[0xE2, 0x82, 0x0A], encode "\x7d;\n"] := by
  -- The program leaves the tree as it was.
  have ran : brokenHost.spawned (.ofText "/tool") [encode "-i", (Path.ofText "image.bin").bytes] =
      .ok (⟨.exited 0, encode "x\n" ++ [0xE2, 0x82] ++ encode "\n\x7d;\nx\n", []⟩, brokenHost.tree) := by
    decide +kernel
  rw [← Host.spawned_log brokenHost (.starting (.ofText "/tool") (.ofText "image.bin")), Host.spawned] at ran
  cases ended : (brokenHost.log (.starting (.ofText "/tool") (.ofText "image.bin"))).spawn (.ofText "/tool")
      [encode "-i", (Path.ofText "image.bin").bytes] with
  | error cause =>
    rw [ended] at ran
    cases ran
  | ok left =>
    obtain ⟨completion, after⟩ := left
    rw [ended] at ran
    obtain ⟨rfl, same⟩ := Prod.mk.inj (Except.ok.inj ran)
    have unchanged := Host.eq_of_spawn ended
    rw [same] at unchanged
    subst unchanged
    obtain ⟨opened, created, file⟩ : ∃ opened, ({ (brokenHost.log (.starting (.ofText "/tool")
        (.ofText "image.bin"))) with tree := brokenHost.tree }).create (.ofText "temp.h") =
          .ok (opened, [encode "temp.h"]) ∧
        opened.tree.lookup [encode "temp.h"] = some (.file [] false) := ⟨_, rfl, rfl⟩
    obtain ⟨text, stored, bytes, written, transcript, sink, dumped, storing, held, copied, accepted, kept⟩ :=
      dump_kept ended rfl created file #[] .nothingWritten
    exact ⟨_, _, opened, text, stored, bytes, written, transcript, sink, rfl, rfl, created, file, dumped, storing,
      held, copied, accepted, kept, by decide⟩

end External

end ImageHeader
