import ImageHeader.Proofs.Json.Text
import Mathlib.Data.List.Forall2

/-! Writing JSON: what is written for a text, a number or an object stands for it in the grammar. -/

namespace ImageHeader.Json

/-- Something that is written stands for a value, whatever comes behind it. -/
def Writes (written : List Char) (value : Value) : Prop :=
  ∀ rest, Stands (.value value) (written ++ rest) rest

/-- What is written for a text stands for it. -/
theorem writes_text (text : String) : Writes (writeText text) (.text (some text)) := by
  intro rest
  have quotes : QuotesText (some text) (text.toList.flatMap writeChar ++ '"' :: rest) rest := Quotes.written _ rest
  simpa [writeText] using Stands.text quotes

section Numbers

/-- Only a zero begins with one. -/
theorem head?_toDigits {number : Nat} (some_ : number ≠ 0) : (Nat.toDigits 10 number).head? ≠ some '0' := by
  -- The induction is on the number, as its digits begin with those of its tenth.
  induction number using Nat.strong_induction_on with
  | _ number ih =>
    rw [Nat.toDigits_eq_if (by decide)]
    split
    · rename_i small
      have single : ∀ digit < 10, digit ≠ 0 → Nat.digitChar digit ≠ '0' := by decide
      simpa using single number small some_
    · -- The digits of the tenth come first.
      have tenth := ih (number / 10) (by omega) (by omega)
      obtain ⟨first, more, same⟩ := List.exists_cons_of_ne_nil (@Nat.toDigits_ne_nil (number / 10) 10)
      rw [same] at tenth ⊢
      exact tenth

/-- The digits of a number stand for it. -/
theorem writes_toString (number : Nat) : Writes (toString number).toList (.number (Nat.toDigits 10 number)) := by
  intro rest
  rw [Nat.toString_eq_ofList_toDigits, String.toList_ofList]
  have digits : Digits (Nat.toDigits 10 number ++ rest) rest :=
    ⟨_, Nat.toDigits_ne_nil, fun _ => Nat.isDigit_of_mem_toDigits (by decide) (by decide), rfl⟩
  refine .number (.plain ⟨rest, rest, ?_, .none rest, .none rest⟩)
  -- The grammar has a case of its own for a lone zero.
  by_cases zero : number = 0
  · subst zero
    exact .zero rest
  · refine .digits ?_ digits
    have first := head?_toDigits zero
    obtain ⟨digit, more, same⟩ := List.exists_cons_of_ne_nil (@Nat.toDigits_ne_nil number 10)
    rw [same] at first ⊢
    exact first

end Numbers

section Members

/-- What is written for a member, on a line of its own, tells its key and its value. -/
structure Tells (line : String × List Char) (member : Option String × Value) : Prop where
  key : member.1 = some line.1
  value : Writes line.2 member.2

/-- The line of a member. -/
def lineOf (line : String × List Char) : List Char :=
  "  ".toList ++ writeText line.1 ++ ": ".toList ++ line.2

variable {line : String × List Char} {lines : List (String × List Char)} {member : Option String × Value}
  {members : List (Option String × Value)}

/-- A line behind a line break stands for its member, and leaves the blanks behind it or not. -/
theorem Tells.stands {behind rest : List Char} (tells : Tells line member) (blanks : Blanks behind rest) :
    Stands (.member member) ('\n' :: (lineOf line ++ behind)) rest := by
  obtain ⟨name, written⟩ := line
  obtain ⟨key, value⟩ := member
  obtain ⟨rfl, writes⟩ := tells
  have quotes : QuotesText (some name) (name.toList.flatMap writeChar ++ '"' :: ':' :: ' ' :: (written ++ behind))
      (':' :: ' ' :: (written ++ behind)) := Quotes.written _ _
  -- Spelled out, the line has two blanks before its quote and one behind its colon.
  have spelled : '\n' :: (lineOf (name, written) ++ behind) =
      '\n' :: ' ' :: ' ' :: '"' :: (name.toList.flatMap writeChar ++ '"' :: ':' :: ' ' :: (written ++ behind)) := by
    simp [lineOf, writeText]
  rw [spelled]
  exact .member (.cons rfl (.cons rfl (.cons rfl (.refl _)))) quotes (.refl _)
    (.element (.cons rfl (.refl _)) (writes behind) blanks)

/-- Lines with commas between them stand for their members. -/
theorem stands_lines (some_ : lines ≠ []) (tells : List.Forall₂ Tells lines members) (rest : List Char) :
    Stands (.members members)
      ('\n' :: (",\n".toList.intercalate (lines.map lineOf) ++ '\n' :: '\x7d' :: rest)) ('\x7d' :: rest) := by
  -- The last member has no comma behind it, so one line and several are two cases.
  induction tells with
  | nil => exact absurd rfl some_
  | @cons line member lines members first more ih =>
    cases lines with
    | nil =>
      cases more
      have ending : Blanks ('\n' :: '\x7d' :: rest) ('\x7d' :: rest) := .cons rfl (.refl _)
      simpa using Stands.lastMember (first.stands ending)
    | cons next others =>
      have spelled : ",\n".toList.intercalate ((line :: next :: others).map lineOf) =
          lineOf line ++ ',' :: '\n' :: ",\n".toList.intercalate ((next :: others).map lineOf) := by
        simp [List.intercalate]
      rw [spelled, List.append_assoc]
      exact .members (first.stands (.refl _)) (ih (by simp))

/-- Lines between braces are a text that stands for the object of their members. -/
theorem document_lines (some_ : lines ≠ []) (tells : List.Forall₂ Tells lines members) :
    Document (.ofList ("\x7b\n".toList ++ ",\n".toList.intercalate (lines.map lineOf) ++ "\n\x7d".toList))
      (.object members) := by
  refine document_ofList (.element (.refl _) ?_ (.refl _))
  -- The line breaks at both ends are blanks within the braces.
  have spelled : "\x7b\n".toList ++ ",\n".toList.intercalate (lines.map lineOf) ++ "\n\x7d".toList =
      '\x7b' :: '\n' :: (",\n".toList.intercalate (lines.map lineOf) ++ '\n' :: '\x7d' :: []) := by
    simp
  rw [spelled]
  exact .object (stands_lines some_ tells [])

end Members

end ImageHeader.Json
