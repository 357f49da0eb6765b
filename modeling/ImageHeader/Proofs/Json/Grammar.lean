import ImageHeader.Json.Value
import Mathlib.Data.List.TakeWhile

/-!
JSON texts: the grammar of the format, said without a reader.

A phrase of the grammar stands at the front of some characters, before others. Values are told apart by what they mean:
neither the blanks between their tokens nor the escapes within their texts belong to them.
-/

namespace ImageHeader.Json

/-- A value; a text whose surrogates do not pair up is no text, and a number is what is written for it. -/
inductive Value where
  | null
  | truth (value : Bool)
  | number (spelling : List Char)
  | text (text : Option String)
  | list (elements : List Value)
  | object (members : List (Option String × Value))

/-- Blanks, or nothing, stand before some characters. -/
def Blanks (chars rest : List Char) : Prop :=
  ∃ blanks : List Char, (∀ char ∈ blanks, isBlank char = true) ∧ chars = blanks ++ rest

/-- At least one digit stands before some characters. -/
def Digits (chars rest : List Char) : Prop :=
  ∃ digits : List Char, digits ≠ [] ∧ (∀ char ∈ digits, char.isDigit = true) ∧ chars = digits ++ rest

namespace Number

/-- The whole digits of a number stand before some characters: a zero, or digits that do not begin with one. -/
inductive Whole : List Char → List Char → Prop
  | zero (rest : List Char) : Whole ('0' :: rest) rest
  | digits {chars rest : List Char} (first : chars.head? ≠ some '0') (digits : Digits chars rest) : Whole chars rest

/-- The decimals of a number stand before some characters, if there are any. -/
inductive Decimals : List Char → List Char → Prop
  | none (rest : List Char) : Decimals rest rest
  | point {chars rest : List Char} (digits : Digits chars rest) : Decimals ('.' :: chars) rest

/-- The exponent of a number stands before some characters, if there is one. -/
inductive Exponent : List Char → List Char → Prop
  | none (rest : List Char) : Exponent rest rest
  | letter {letter : Char} {sign chars rest : List Char} (opens : letter = 'e' ∨ letter = 'E')
      (signed : sign = [] ∨ sign = ['+'] ∨ sign = ['-']) (digits : Digits chars rest) :
      Exponent (letter :: (sign ++ chars)) rest

/-- A number without a sign stands before some characters. -/
def Unsigned (chars rest : List Char) : Prop :=
  ∃ decimals exponent, Whole chars decimals ∧ Decimals decimals exponent ∧ Exponent exponent rest

/-- A number stands before some characters. -/
inductive Stands : List Char → List Char → Prop
  | plain {chars rest : List Char} (unsigned : Unsigned chars rest) : Stands chars rest
  | minus {chars rest : List Char} (unsigned : Unsigned chars rest) : Stands ('-' :: chars) rest

end Number

/-- Four hexadecimal digits with a value stand before some characters. -/
def FourDigits (value : Nat) (chars rest : List Char) : Prop :=
  ∃ a b c d a' b' c' d', chars = a :: b :: c :: d :: rest ∧ Hex.value? a = some a' ∧ Hex.value? b = some b' ∧
    Hex.value? c = some c' ∧ Hex.value? d = some d' ∧ value = a' * 0x1000 + b' * 0x100 + c' * 0x10 + d'

/-- The letters that may follow a backslash, and what they stand for there. -/
def escapes : List (Char × Char) :=
  [('"', '"'), ('\\', '\\'), ('/', '/'), ('b', '\x08'), ('f', '\x0c'), ('n', '\n'), ('r', '\r'), ('t', '\t')]

/-- A character that may stand for itself between quotes. -/
structure Plain (char : Char) : Prop where
  quote : char ≠ '"'
  backslash : char ≠ '\\'
  control : 0x20 ≤ char.toNat

/-- Something is quoted: it stands, with a quote behind it, before some characters. -/
inductive Quoted : List Char → List Char → Prop
  | done (rest : List Char) : Quoted ('"' :: rest) rest
  | plain {char : Char} {chars rest : List Char} (plain : Plain char) (more : Quoted chars rest) :
      Quoted (char :: chars) rest
  | letter {letter char : Char} {chars rest : List Char} (known : (letter, char) ∈ escapes)
      (more : Quoted chars rest) : Quoted ('\\' :: letter :: chars) rest
  | unit {unit : Nat} {chars behind rest : List Char} (digits : FourDigits unit chars behind)
      (more : Quoted behind rest) : Quoted ('\\' :: 'u' :: chars) rest

/-- The characters that are quoted; those beyond four digits are a pair of surrogates. -/
inductive Quotes : List Char → List Char → List Char → Prop
  | done (rest : List Char) : Quotes [] ('"' :: rest) rest
  | plain {char : Char} {text chars rest : List Char} (plain : Plain char) (more : Quotes text chars rest) :
      Quotes (char :: text) (char :: chars) rest
  | letter {letter char : Char} {text chars rest : List Char} (known : (letter, char) ∈ escapes)
      (more : Quotes text chars rest) : Quotes (char :: text) ('\\' :: letter :: chars) rest
  | unit {unit : Nat} {text chars behind rest : List Char} (digits : FourDigits unit chars behind)
      (scalar : unit < 0xD800 ∨ 0xDFFF < unit) (more : Quotes text behind rest) :
      Quotes (Char.ofNat unit :: text) ('\\' :: 'u' :: chars) rest
  | pair {unit unit' : Nat} {text chars between behind rest : List Char}
      (digits : FourDigits unit chars ('\\' :: 'u' :: between)) (leading : 0xD800 ≤ unit ∧ unit ≤ 0xDBFF)
      (digits' : FourDigits unit' between behind) (trailing : 0xDC00 ≤ unit' ∧ unit' ≤ 0xDFFF)
      (more : Quotes text behind rest) :
      Quotes (Char.ofNat (0x10000 + (unit - 0xD800) * 0x400 + (unit' - 0xDC00)) :: text) ('\\' :: 'u' :: chars) rest

/-- What is quoted is a text, or else it is no text. -/
def QuotesText (text : Option String) (chars rest : List Char) : Prop :=
  match text with
  | some text => Quotes text.toList chars rest
  | none => Quoted chars rest ∧ ∀ text, ¬Quotes text chars rest

/-- What the grammar is made of, apart from single tokens. -/
inductive Phrase where
  | value (value : Value)
  /-- A value with blanks around it. -/
  | element (value : Value)
  /-- Elements with commas between them. -/
  | elements (values : List Value)
  /-- A key with blanks around it, a colon and an element. -/
  | member (member : Option String × Value)
  /-- Members with commas between them. -/
  | members (members : List (Option String × Value))

/-- A phrase stands before some characters. -/
inductive Stands : Phrase → List Char → List Char → Prop
  | null (rest : List Char) : Stands (.value .null) ("null".toList ++ rest) rest
  | yes (rest : List Char) : Stands (.value (.truth true)) ("true".toList ++ rest) rest
  | no (rest : List Char) : Stands (.value (.truth false)) ("false".toList ++ rest) rest
  | number {spelling rest : List Char} (number : Number.Stands (spelling ++ rest) rest) :
      Stands (.value (.number spelling)) (spelling ++ rest) rest
  | text {text : Option String} {chars rest : List Char} (quotes : QuotesText text chars rest) :
      Stands (.value (.text text)) ('"' :: chars) rest
  | emptyList {chars rest : List Char} (blanks : Blanks chars (']' :: rest)) :
      Stands (.value (.list [])) ('[' :: chars) rest
  | list {values : List Value} {chars rest : List Char} (inside : Stands (.elements values) chars (']' :: rest)) :
      Stands (.value (.list values)) ('[' :: chars) rest
  | emptyObject {chars rest : List Char} (blanks : Blanks chars ('\x7d' :: rest)) :
      Stands (.value (.object [])) ('\x7b' :: chars) rest
  | object {members : List (Option String × Value)} {chars rest : List Char}
      (inside : Stands (.members members) chars ('\x7d' :: rest)) :
      Stands (.value (.object members)) ('\x7b' :: chars) rest
  | element {value : Value} {chars inner behind rest : List Char} (blanks : Blanks chars inner)
      (stands : Stands (.value value) inner behind) (blanks' : Blanks behind rest) : Stands (.element value) chars rest
  | lastElement {value : Value} {chars rest : List Char} (last : Stands (.element value) chars rest) :
      Stands (.elements [value]) chars rest
  | elements {value : Value} {values : List Value} {chars behind rest : List Char}
      (first : Stands (.element value) chars (',' :: behind)) (more : Stands (.elements values) behind rest) :
      Stands (.elements (value :: values)) chars rest
  | member {key : Option String} {value : Value} {chars quoted behind inner rest : List Char}
      (blanks : Blanks chars ('"' :: quoted)) (quotes : QuotesText key quoted behind)
      (blanks' : Blanks behind (':' :: inner)) (element : Stands (.element value) inner rest) :
      Stands (.member (key, value)) chars rest
  | lastMember {member : Option String × Value} {chars rest : List Char} (last : Stands (.member member) chars rest) :
      Stands (.members [member]) chars rest
  | members {member : Option String × Value} {members : List (Option String × Value)} {chars behind rest : List Char}
      (first : Stands (.member member) chars (',' :: behind)) (more : Stands (.members members) behind rest) :
      Stands (.members (member :: members)) chars rest

/-- A text that is a value, with or without blanks around it. -/
def Document (text : String) (value : Value) : Prop := Stands (.element value) text.toList []

/-- Characters that are a value make such a text. -/
theorem document_ofList {chars : List Char} {value : Value} (stands : Stands (.element value) chars []) :
    Document (.ofList chars) value := by
  -- A document asks for the characters of its text, which are the ones it was made of.
  unfold Document
  rwa [String.toList_ofList]

section Spelling

variable {chars rest : List Char}

/-- No blanks are needed. -/
theorem Blanks.refl (chars : List Char) : Blanks chars chars := ⟨[], by simp, rfl⟩

/-- A blank may come first. -/
theorem Blanks.cons {char : Char} (blank : isBlank char = true) (more : Blanks chars rest) :
    Blanks (char :: chars) rest := by
  obtain ⟨blanks, all, rfl⟩ := more
  -- The blank joins those that are there already.
  exact ⟨char :: blanks, List.forall_mem_cons.mpr ⟨blank, all⟩, rfl⟩

/-- Characters that may stand for themselves are quoted as they are. -/
theorem Quotes.of_plain {text : List Char} (plain : ∀ char ∈ text, Plain char) (rest : List Char) :
    Quotes text (text ++ '"' :: rest) rest := by
  -- The induction is on the text; the quote that ends it comes last.
  induction text with
  | nil => exact .done rest
  | cons char more ih =>
    obtain ⟨first, others⟩ := List.forall_mem_cons.mp plain
    exact .plain first (ih others)

end Spelling

section Openings

variable {chars rest : List Char} {value : Value}

/-- Blanks are passed over. -/
theorem Blanks.skipBlank_eq (blanks : Blanks chars rest) : skipBlank chars = skipBlank rest := by
  obtain ⟨blanks, blank, rfl⟩ := blanks
  -- Nothing of the blanks is left, so that only what comes behind them counts.
  have gone : blanks.dropWhile isBlank = [] := List.dropWhile_eq_nil_iff.mpr blank
  rw [skipBlank, List.dropWhile_append, gone, List.isEmpty_nil, if_pos rfl, skipBlank]

/-- What is not blank is not passed over. -/
theorem skipBlank_cons {first : Char} (solid : isBlank first = false) (more : List Char) :
    skipBlank (first :: more) = first :: more :=
  List.dropWhile_cons_of_neg (by simp [solid])

/-- Blanks are passed over up to a character that is none. -/
theorem Blanks.skipBlank_cons {first : Char} {more : List Char} (blanks : Blanks chars (first :: more))
    (solid : isBlank first = false) : skipBlank chars = first :: more := by
  rw [blanks.skipBlank_eq, Json.skipBlank_cons solid]

/-- A digit is first among digits. -/
theorem Digits.exists_first (digits : Digits chars rest) :
    ∃ first more, chars = first :: more ∧ first.isDigit = true := by
  obtain ⟨digits, filled, all, rfl⟩ := digits
  -- There is at least one digit, so the first one can be named.
  obtain ⟨first, more, rfl⟩ := List.exists_cons_of_ne_nil filled
  exact ⟨first, more ++ rest, rfl, all first List.mem_cons_self⟩

/-- A digit comes first in a number without a sign. -/
theorem Number.Unsigned.exists_first (unsigned : Number.Unsigned chars rest) :
    ∃ first more, chars = first :: more ∧ first.isDigit = true := by
  obtain ⟨decimals, _, whole, _, _⟩ := unsigned
  -- A lone zero is a digit as well.
  cases whole with
  | zero => exact ⟨'0', decimals, rfl, by decide⟩
  | digits _ digits => exact digits.exists_first

/-- A number begins with a digit or a sign. -/
theorem Number.Stands.exists_first (number : Number.Stands chars rest) :
    ∃ first more, chars = first :: more ∧ (first = '-' ∨ first.isDigit = true) := by
  cases number with
  | plain unsigned =>
    obtain ⟨first, more, same, digit⟩ := unsigned.exists_first
    exact ⟨first, more, same, .inr digit⟩
  | @minus chars => exact ⟨'-', chars, rfl, .inl rfl⟩

/-- No other character comes first in a number. -/
theorem Number.Stands.first_of_cons {first : Char} {more : List Char} (number : Number.Stands chars rest)
    (same : chars = first :: more) : first = '-' ∨ first.isDigit = true := by
  -- Both ways of cutting off the first character give the same one.
  obtain ⟨first', more', same', begins⟩ := number.exists_first
  obtain rfl := (List.cons.inj (same'.symm.trans same)).1
  exact begins

/-- What begins with a quote is quoted. -/
theorem quotes_of_stands {quoted : List Char} (stands : Stands (.value value) chars rest)
    (quote : chars = '"' :: quoted) : ∃ text, value = .text text ∧ QuotesText text quoted rest := by
  -- Only a text begins with a quote; a number begins with a digit or a sign, and all else with a mark of its own.
  cases stands with
  | text quotes =>
    obtain rfl := (List.cons.inj quote).2
    exact ⟨_, rfl, quotes⟩
  | number number => exact absurd (number.first_of_cons quote) (by decide)
  | _ => cases quote

/-- A null is the only value that begins like one. -/
theorem null_of_stands {more : List Char} (stands : Stands (.value value) chars rest) (same : chars = 'n' :: more) :
    value = .null ∧ more = "ull".toList ++ rest := by
  -- Of the three words only one begins with this letter.
  cases stands with
  | null => exact ⟨rfl, (List.cons.inj same).2.symm⟩
  | number number => exact absurd (number.first_of_cons same) (by decide)
  | _ => cases same

/-- So is each of the truth values. -/
theorem truth_of_stands {more : List Char} (truth : Bool) (stands : Stands (.value value) chars rest)
    (same : chars = (if truth then 't' else 'f') :: more) :
    value = .truth truth ∧ more = (if truth then "rue".toList else "alse".toList) ++ rest := by
  -- The two truth values differ in their first letters already.
  cases stands with
  | yes =>
    cases truth with
    | true => exact ⟨rfl, (List.cons.inj same).2.symm⟩
    | false => cases same
  | no =>
    cases truth with
    | true => cases same
    | false => exact ⟨rfl, (List.cons.inj same).2.symm⟩
  | number number => cases truth <;> exact absurd (number.first_of_cons same) (by decide)
  | _ => cases truth <;> cases same

/-- A number is the only value that begins with a digit or a sign. -/
theorem number_of_stands {first : Char} {more : List Char} (stands : Stands (.value value) chars rest)
    (same : chars = first :: more) (begins : first = '-' ∨ first.isDigit = true) :
    ∃ spelling, value = .number spelling ∧ chars = spelling ++ rest ∧ Number.Stands chars rest := by
  -- The marks with which all other values begin are neither digits nor the sign.
  cases stands with
  | number number => exact ⟨_, rfl, rfl, number⟩
  | _ =>
    obtain rfl := (List.cons.inj same).1
    exact absurd begins (by decide)

/-- A list is the only value that begins with a bracket. -/
theorem list_of_stands {inside : List Char} (stands : Stands (.value value) chars rest)
    (same : chars = '[' :: inside) :
    value = .list [] ∧ Blanks inside (']' :: rest) ∨
      ∃ values, value = .list values ∧ Stands (.elements values) inside (']' :: rest) := by
  -- A bracket opens a list with elements or an empty one.
  cases stands with
  | emptyList blanks =>
    obtain rfl := (List.cons.inj same).2
    exact .inl ⟨rfl, blanks⟩
  | list inside =>
    obtain rfl := (List.cons.inj same).2
    exact .inr ⟨_, rfl, inside⟩
  | number number => exact absurd (number.first_of_cons same) (by decide)
  | _ => cases same

/-- An object is the only value that begins with a brace. -/
theorem object_of_stands {inside : List Char} (stands : Stands (.value value) chars rest)
    (same : chars = '\x7b' :: inside) :
    value = .object [] ∧ Blanks inside ('\x7d' :: rest) ∨
      ∃ members, value = .object members ∧ Stands (.members members) inside ('\x7d' :: rest) := by
  -- A brace opens an object with members or an empty one.
  cases stands with
  | emptyObject blanks =>
    obtain rfl := (List.cons.inj same).2
    exact .inl ⟨rfl, blanks⟩
  | object inside =>
    obtain rfl := (List.cons.inj same).2
    exact .inr ⟨_, rfl, inside⟩
  | number number => exact absurd (number.first_of_cons same) (by decide)
  | _ => cases same

/-- A character with which a value may begin. -/
def opensValue (char : Char) : Bool :=
  char.isDigit || ['n', 't', 'f', '-', '"', '[', '\x7b'].contains char

/-- A value begins with such a character. -/
theorem Stands.exists_first (stands : Stands (.value value) chars rest) :
    ∃ first more, chars = first :: more ∧ opensValue first = true := by
  -- Apart from a number, each kind of value shows its first character.
  cases stands with
  | number number =>
    obtain ⟨first, more, same, rfl | digit⟩ := number.exists_first
    · exact ⟨'-', more, same, by decide⟩
    · exact ⟨first, more, same, by simp [opensValue, digit]⟩
  | _ => exact ⟨_, _, rfl, by decide⟩

/-- Such a character is neither blank nor does it end or go on with anything. -/
theorem ne_of_opensValue {char other : Char} (opens : opensValue char = true) (closed : opensValue other = false) :
    char ≠ other := by
  rintro rfl
  simp [opens] at closed

/-- It is not blank. -/
theorem isBlank_of_opensValue {char : Char} (opens : opensValue char = true) : isBlank char = false := by
  simp only [isBlank, Bool.or_eq_false_iff, decide_eq_false_iff_not]
  -- Each of the four blanks is a character that opens no value.
  refine ⟨⟨⟨?_, ?_⟩, ?_⟩, ?_⟩ <;> exact ne_of_opensValue opens (by decide)

/-- Behind blanks a value is found with its first character. -/
theorem Stands.exists_skipBlank {start : List Char} (stands : Stands (.value value) chars rest)
    (blanks : Blanks start chars) : ∃ first more, chars = first :: more ∧ skipBlank start = first :: more := by
  obtain ⟨first, more, rfl, opens⟩ := stands.exists_first
  -- The first character of the value is not blank, so that passing over blanks ends there.
  exact ⟨first, more, rfl, blanks.skipBlank_cons (isBlank_of_opensValue opens)⟩

end Openings

section Members

variable {chars rest : List Char} {member : Option String × Value} {members : List (Option String × Value)}

/-- The parts of a member: a key between blanks, a colon, and a value between blanks. -/
structure MemberParts (member : Option String × Value) (chars rest : List Char) : Prop where
  parts : ∃ quoted behind inner value last, Blanks chars ('"' :: quoted) ∧ QuotesText member.1 quoted behind ∧
    Blanks behind (':' :: inner) ∧ Blanks inner value ∧ Stands (.value member.2) value last ∧ Blanks last rest

/-- A member has its parts. -/
theorem Stands.memberParts (stands : Stands (.member member) chars rest) : MemberParts member chars rest := by
  cases stands with
  | member blanks quotes blanks' element =>
    -- The element brings the blanks around the value.
    cases element with
    | element before stands behind => exact ⟨_, _, _, _, _, blanks, quotes, blanks', before, stands, behind⟩

/-- What follows a member: others behind a comma, or nothing more. -/
inductive Follow : List (Option String × Value) → List Char → List Char → Prop
  | done (rest : List Char) : Follow [] rest rest
  | comma {others : List (Option String × Value)} {chars rest : List Char}
      (more : Stands (.members others) chars rest) : Follow others (',' :: chars) rest

/-- Members are a member and what follows it. -/
theorem Stands.exists_member (stands : Stands (.members members) chars rest) :
    ∃ member others behind, members = member :: others ∧ Stands (.member member) chars behind ∧
      Follow others behind rest := by
  -- The last member has nothing behind it, and any other has a comma.
  cases stands with
  | lastMember last => exact ⟨_, [], rest, rfl, last, .done rest⟩
  | members first more => exact ⟨_, _, _, rfl, first, .comma more⟩

/-- There is at least one of them. -/
theorem Stands.members_ne_nil (stands : Stands (.members members) chars rest) : members ≠ [] := by
  obtain ⟨member, others, _, rfl, _⟩ := stands.exists_member
  simp

end Members

section Lengths

variable {chars rest : List Char}

/-- Blanks make no text shorter. -/
theorem Blanks.length_le (blanks : Blanks chars rest) : rest.length ≤ chars.length := by
  obtain ⟨blanks, _, rfl⟩ := blanks
  simp

/-- Digits take characters from the front. -/
theorem Digits.length_lt (digits : Digits chars rest) : rest.length < chars.length := by
  obtain ⟨digits, filled, _, rfl⟩ := digits
  -- It is at least one digit that is taken.
  have some_ := List.length_pos_iff.mpr filled
  rw [List.length_append]
  omega

/-- A number takes characters from the front. -/
theorem Number.Stands.length_lt (number : Number.Stands chars rest) : rest.length < chars.length := by
  -- Of the three parts the first takes at least one character, and the other two may be missing.
  have unsigned {chars : List Char} (unsigned : Number.Unsigned chars rest) : rest.length < chars.length := by
    obtain ⟨decimals, exponent, whole, places, scaled⟩ := unsigned
    have first : decimals.length < chars.length := by
      cases whole with
      | zero => simp
      | digits _ digits => exact digits.length_lt
    have second : exponent.length ≤ decimals.length := by
      cases places with
      | none => exact Nat.le_refl _
      | point digits => exact Nat.le_succ_of_le digits.length_lt.le
    have third : rest.length ≤ exponent.length := by
      cases scaled with
      | none => exact Nat.le_refl _
      | letter _ _ digits =>
        have shorter := digits.length_lt
        rw [List.length_cons, List.length_append]
        omega
    omega
  -- A sign takes one more.
  cases number with
  | plain number => exact unsigned number
  | minus number => exact Nat.lt_succ_of_lt (unsigned number)

/-- Four digits are taken from the front. -/
theorem FourDigits.length_lt {unit : Nat} (digits : FourDigits unit chars rest) : rest.length < chars.length := by
  obtain ⟨_, _, _, _, _, _, _, _, rfl, _⟩ := digits
  simp only [List.length_cons]
  omega

/-- So is what is quoted. -/
theorem Quoted.length_lt (quoted : Quoted chars rest) : rest.length < chars.length := by
  -- The quote at the end is taken in any case, and every mark before it takes one character at least.
  induction quoted with
  | done => simp
  | plain _ _ ih => exact Nat.lt_succ_of_lt ih
  | letter _ _ ih => exact Nat.lt_succ_of_lt (Nat.lt_succ_of_lt ih)
  | unit digits _ ih => exact Nat.lt_succ_of_lt (Nat.lt_succ_of_lt (ih.trans digits.length_lt))

/-- Characters that are quoted are quoted. -/
theorem Quotes.quoted {text : List Char} (quotes : Quotes text chars rest) : Quoted chars rest := by
  -- A pair of surrogates is two escapes, one behind the other.
  induction quotes with
  | done rest => exact .done rest
  | plain plain more ih => exact .plain plain ih
  | letter known more ih => exact .letter known ih
  | unit digits scalar more ih => exact .unit digits ih
  | pair digits leading digits' trailing more ih => exact .unit digits (.unit digits' ih)

/-- Text or not, something is quoted. -/
theorem QuotesText.quoted {text : Option String} (quotes : QuotesText text chars rest) : Quoted chars rest := by
  cases text with
  | some text => exact Quotes.quoted quotes
  | none => exact quotes.1

/-- A phrase takes characters from the front. -/
theorem Stands.length_lt {phrase : Phrase} (stands : Stands phrase chars rest) : rest.length < chars.length := by
  -- A token takes at least one character; blanks take none away from what follows, and a phrase takes what its parts
  -- take.
  induction stands with
  | null | yes | no =>
    simp only [List.length_append, String.length_toList, Nat.lt_add_left_iff_pos]
    decide
  | number number => exact number.length_lt
  | text quotes => exact Nat.lt_succ_of_lt quotes.quoted.length_lt
  | emptyList blanks | emptyObject blanks =>
    have shorter := blanks.length_le
    simp only [List.length_cons] at shorter ⊢
    omega
  | list _ ih | object _ ih =>
    simp only [List.length_cons] at ih ⊢
    omega
  -- Around a value blanks may be missing, but the value is there.
  | element blanks _ blanks' ih =>
    have before := blanks.length_le
    have behind := blanks'.length_le
    omega
  | lastElement _ ih | lastMember _ ih => exact ih
  | elements _ _ ih ih' | members _ _ ih ih' =>
    simp only [List.length_cons] at ih
    omega
  | member blanks quotes blanks' _ ih =>
    have before := blanks.length_le
    have key := quotes.quoted.length_lt
    have behind := blanks'.length_le
    simp only [List.length_cons] at before behind
    omega

/-- There are no more members than characters. -/
theorem Stands.length_members_le {members : List (Option String × Value)}
    (stands : Stands (.members members) chars rest) : members.length ≤ chars.length := by
  -- Each member takes at least one character from the front before the next one stands there.
  induction members generalizing chars with
  | nil => exact Nat.zero_le _
  | cons member more ih =>
    cases stands with
    | lastMember last =>
      have shorter := last.length_lt
      simp only [List.length_singleton]
      omega
    | members first others =>
      have shorter := first.length_lt
      have fewer := ih others
      simp only [List.length_cons] at shorter ⊢
      omega

end Lengths

end ImageHeader.Json
