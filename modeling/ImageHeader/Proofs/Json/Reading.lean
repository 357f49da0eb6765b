import ImageHeader.Proofs.Json.Grammar

/-!
Reading JSON: what stands at the front of some characters is passed over, or read, up to what is behind it.

A value that is passed over may hold any others. The brackets around the place that was reached take the part of the
phrases that are still to be ended.
-/

namespace ImageHeader.Json

variable {chars behind rest : List Char}

section Numbers

/-- Characters before which a value can end: there are none, or the first one is no part of a number. -/
def Ends (rest : List Char) : Prop :=
  ∀ char, rest.head? = some char → isBlank char = true ∨ char = ',' ∨ char = ']' ∨ char = '\x7d'

/-- A character before which a value can end goes on with no number. -/
theorem Ends.cons {first : Char} {more : List Char} (ends : Ends (first :: more)) :
    first.isDigit = false ∧ first ≠ '.' ∧ first ≠ 'e' ∧ first ≠ 'E' := by
  -- Seven characters are left, none of which can go on with a number.
  have kinds := ends first rfl
  simp only [isBlank, Bool.or_eq_true, decide_eq_true_eq] at kinds
  rcases kinds with (((rfl | rfl) | rfl) | rfl) | rfl | rfl | rfl <;> decide

/-- No digit comes first. -/
def NoDigit (rest : List Char) : Prop := rest.head?.any Char.isDigit = false

/-- There is no digit where a value can end. -/
theorem Ends.noDigit (ends : Ends rest) : NoDigit rest := by
  cases rest with
  | nil => rfl
  | cons first more => exact ends.cons.1

/-- Digits are passed over up to what is none. -/
theorem Digits.dropWhile_eq (digits : Digits chars rest) (ended : NoDigit rest) :
    chars.dropWhile Char.isDigit = rest := by
  -- The run of digits is dropped whole, and the next character stops it.
  obtain ⟨digits, _, all, rfl⟩ := digits
  have gone : digits.dropWhile Char.isDigit = [] := List.dropWhile_eq_nil_iff.mpr all
  rw [List.dropWhile_append, gone, List.isEmpty_nil, if_pos rfl]
  cases rest with
  | nil => rfl
  | cons first more => exact List.dropWhile_cons_of_neg (by simpa [NoDigit] using ended)

namespace Number

/-- Digits that must come are passed over. -/
theorem skipDigits_eq (digits : Digits chars rest) (ended : NoDigit rest) : skipDigits chars = .ok rest := by
  obtain ⟨first, more, same, digit⟩ := digits.exists_first
  rw [skipDigits, if_pos (by simp [same, digit]), digits.dropWhile_eq ended]

/-- There is an exponent, which is passed over after its letter, or there is none. -/
theorem Exponent.skip_eq (exponent : Exponent chars rest) (ends : Ends rest) :
    chars = rest ∨ ∃ letter more, chars = letter :: more ∧ (letter = 'e' ∨ letter = 'E') ∧
      skipExponent more = .ok rest := by
  cases exponent with
  | none => exact .inl rfl
  | @letter letter sign chars _ opens signed digits =>
    refine .inr ⟨letter, sign ++ chars, rfl, opens, ?_⟩
    have passed := skipDigits_eq digits ends.noDigit
    obtain ⟨first, more, rfl, digit⟩ := digits.exists_first
    rw [skipExponent]
    rcases signed with rfl | rfl | rfl
    · -- The first digit is no sign.
      have bare : skipSign (first :: more) = first :: more := by
        unfold skipSign
        split
        · simp_all
        · simp_all
        · rfl
      rwa [List.nil_append, bare]
    · exact passed
    · exact passed

/-- Behind the digits of a number there is no other digit. -/
theorem Exponent.noDigit (exponent : Exponent chars rest) (ends : Ends rest) : NoDigit chars := by
  cases exponent with
  | none => exact ends.noDigit
  | letter opens => rcases opens with rfl | rfl <;> rfl

/-- What follows the whole digits is passed over. -/
theorem skipTail_eq {exponent : List Char} (decimals : Decimals chars exponent) (scaled : Exponent exponent rest)
    (ends : Ends rest) : skipTail chars = .ok rest := by
  cases decimals with
  | none =>
    obtain rfl | ⟨letter, more, rfl, rfl | rfl, passed⟩ := scaled.skip_eq ends
    · -- Nothing follows.
      unfold skipTail
      split
      · exact absurd rfl ends.cons.2.1
      · exact absurd rfl ends.cons.2.2.1
      · exact absurd rfl ends.cons.2.2.2
      · rfl
    · exact passed
    · exact passed
  -- Behind the decimals the exponent is told by its letter, which is no digit.
  | @point places _ digits =>
    have passed := skipDigits_eq digits (scaled.noDigit ends)
    obtain rfl | ⟨letter, more, rfl, rfl | rfl, passed'⟩ := scaled.skip_eq ends
    · simp only [skipTail, passed]
      split
      · simp_all
      · exact absurd rfl ((Except.ok.inj ‹_›) ▸ ends).cons.2.2.1
      · exact absurd rfl ((Except.ok.inj ‹_›) ▸ ends).cons.2.2.2
      · rename_i same
        exact same.symm
    · simp only [skipTail, passed, passed']
    · simp only [skipTail, passed, passed']

/-- A number without a sign is passed over. -/
theorem Unsigned.skip_eq (unsigned : Unsigned chars rest) (ends : Ends rest) : skip chars = .ok rest := by
  obtain ⟨decimals, exponent, whole, places, scaled⟩ := unsigned
  have tail := skipTail_eq places scaled ends
  -- A point is no digit either, so the whole digits end before the decimals.
  have ended : NoDigit decimals := by
    cases places with
    | none => exact scaled.noDigit ends
    | point => rfl
  cases whole with
  | zero => rw [skip, if_neg (by rw [ended]; simp), tail]
  | digits zero digits =>
    obtain ⟨first, more, rfl, digit⟩ := digits.exists_first
    have dropped := digits.dropWhile_eq ended
    rw [List.dropWhile_cons_of_pos digit] at dropped
    unfold skip
    split
    · simp_all
    · rename_i same
      cases same
      rw [if_pos digit, dropped, tail]
    · simp_all

end Number

end Numbers

section Texts

variable {unit : Nat} {letter char : Char} {text : List Char}

/-- Four digits are read as their value. -/
theorem FourDigits.readHex_eq (digits : FourDigits unit chars rest) : readHex chars = .ok (unit, rest) := by
  obtain ⟨a, b, c, d, a', b', c', d', rfl, first, second, third, fourth, rfl⟩ := digits
  have sizes := And.intro (And.intro a.utf8Size_pos b.utf8Size_pos) (And.intro c.utf8Size_pos d.utf8Size_pos)
  -- Each of the four characters is a byte at least.
  have enough : ¬((a :: b :: c :: d :: rest).take 4).foldl (fun total char => total + char.utf8Size) 0 < 4 := by
    simp only [List.take_succ_cons, List.take_zero, List.foldl_cons, List.foldl_nil]
    omega
  have value : ((a' * 16 + b') * 16 + c') * 16 + d' = a' * 0x1000 + b' * 0x100 + c' * 0x10 + d' := by omega
  rw [readHex, if_neg enough]
  simp only [first, second, third, fourth, value]

/-- A letter that may follow a backslash is known. -/
theorem shortEscape?_of_mem (known : (letter, char) ∈ escapes) : shortEscape? letter = some char := by
  simp only [escapes, List.mem_cons, Prod.mk.injEq, List.not_mem_nil, or_false] at known
  rcases known with ⟨rfl, rfl⟩ | ⟨rfl, rfl⟩ | ⟨rfl, rfl⟩ | ⟨rfl, rfl⟩ | ⟨rfl, rfl⟩ | ⟨rfl, rfl⟩ | ⟨rfl, rfl⟩ |
    ⟨rfl, rfl⟩ <;> rfl

/-- It is not the one that four digits follow. -/
theorem ne_of_mem_escapes (known : (letter, char) ∈ escapes) : letter ≠ 'u' := by
  rintro rfl
  have none := shortEscape?_of_mem known
  cases none

/-- What is quoted is passed over with its closing quote. -/
theorem Quoted.skipText_eq (quoted : Quoted chars rest) : skipText chars = .ok rest := by
  -- Passing over does not ask what a number stands for, so one case of it is enough.
  induction quoted with
  | done rest => rw [skipText]
  | @plain char chars rest plain more ih =>
    rw [skipText, if_neg (Nat.not_lt.mpr plain.control), ih]
    · exact plain.quote
    · exact fun same _ => plain.backslash same
    · exact fun _ same => absurd same plain.backslash
    · exact fun _ _ same => absurd same plain.backslash
  | @letter letter char chars rest known more ih =>
    rw [skipText, shortEscape?_of_mem known]
    · exact ih
    · exact ne_of_mem_escapes known
  | unit digits more ih =>
    rw [skipText]
    split
    · rename_i read
      rw [digits.readHex_eq] at read
      cases read
    · rename_i read
      rw [digits.readHex_eq] at read
      cases read
      exact ih

/-- A character by its number is read before what follows. -/
theorem readTextFrom_point {point : Char} (read : readCodePoint chars = .ok (point, rest)) (found : List Char) :
    readTextFrom ('\\' :: 'u' :: chars) found = readTextFrom rest (point :: found) := by
  rw [readTextFrom]
  split
  · simp_all
  · simp_all

/-- Where no character can be read by its number, no text is read. -/
theorem readTextFrom_no_point {fault : Fault} (refused : readCodePoint chars = .error fault) (found : List Char) :
    readTextFrom ('\\' :: 'u' :: chars) found = .error fault := by
  rw [readTextFrom]
  split
  · simp_all
  · simp_all

/-- A character that stands for itself is read before what follows. -/
theorem Plain.readTextFrom_eq (plain : Plain char) (chars found : List Char) :
    readTextFrom (char :: chars) found = readTextFrom chars (char :: found) := by
  -- The other equations are for a quote and for backslashes, which it is not.
  rw [readTextFrom, if_neg (Nat.not_lt.mpr plain.control)]
  · exact plain.quote
  · exact fun same _ => plain.backslash same
  · exact fun _ same => absurd same plain.backslash
  · exact fun _ _ same => absurd same plain.backslash

/-- A character by its letter is read before what follows. -/
theorem readTextFrom_letter (known : (letter, char) ∈ escapes) (chars found : List Char) :
    readTextFrom ('\\' :: letter :: chars) found = readTextFrom chars (char :: found) := by
  rw [readTextFrom, shortEscape?_of_mem known]
  exact ne_of_mem_escapes known

/-- The number of a character is read. -/
theorem readCodePoint_scalar (digits : FourDigits unit chars rest) (scalar : unit < 0xD800 ∨ 0xDFFF < unit) :
    readCodePoint chars = .ok (Char.ofNat unit, rest) := by
  have single : isTrailing unit = false ∧ isLeading unit = false := by
    simp only [isTrailing, isLeading, Bool.and_eq_false_iff, decide_eq_false_iff_not]
    omega
  simp [readCodePoint, digits.readHex_eq, single]

/-- A pair of surrogates is read. -/
theorem readCodePoint_pair {unit' : Nat} {between : List Char}
    (digits : FourDigits unit chars ('\\' :: 'u' :: between)) (leading : 0xD800 ≤ unit ∧ unit ≤ 0xDBFF)
    (digits' : FourDigits unit' between rest) (trailing : 0xDC00 ≤ unit' ∧ unit' ≤ 0xDFFF) :
    readCodePoint chars = .ok (Char.ofNat (0x10000 + (unit - 0xD800) * 0x400 + (unit' - 0xDC00)), rest) := by
  -- The halves of a surrogate pair come from two ranges that do not meet.
  have first : isTrailing unit = false ∧ isLeading unit = true := by
    simp only [isTrailing, isLeading, Bool.and_eq_false_iff, Bool.and_eq_true, decide_eq_false_iff_not,
      decide_eq_true_eq]
    omega
  have second : isTrailing unit' = true := by
    simp only [isTrailing, Bool.and_eq_true, decide_eq_true_eq]
    exact trailing
  simp [readCodePoint, digits.readHex_eq, digits'.readHex_eq, first, second]

/-- A surrogate that is not the first of a pair is refused. -/
theorem readCodePoint_unpaired (digits : FourDigits unit chars behind) (surrogate : 0xD800 ≤ unit ∧ unit ≤ 0xDFFF)
    (unpaired : unit ≤ 0xDBFF → ∀ between, behind = '\\' :: 'u' :: between →
      ∃ unit' rest, FourDigits unit' between rest ∧ ¬(0xDC00 ≤ unit' ∧ unit' ≤ 0xDFFF)) :
    ∃ fault, readCodePoint chars = .error fault := by
  simp only [readCodePoint, digits.readHex_eq]
  -- A second half fails at once; a first half fails at what follows it.
  by_cases trailing : isTrailing unit = true
  · exact ⟨_, if_pos trailing⟩
  · simp only [isTrailing, Bool.and_eq_true, decide_eq_true_eq] at trailing
    have leading : isLeading unit = true := by
      simp only [isLeading, Bool.and_eq_true, decide_eq_true_eq]
      omega
    rw [if_neg (by simpa [isTrailing] using trailing), if_pos leading]
    split
    · exact ⟨_, rfl⟩
    · exact ⟨_, rfl⟩
    · obtain ⟨unit', rest, digits', other⟩ := unpaired (by omega) _ rfl
      refine ⟨.loneSurrogate, ?_⟩
      simp only [digits'.readHex_eq]
      exact if_neg (by simpa [isTrailing] using other)
    · exact ⟨_, rfl⟩

/-- The characters that are quoted are read, behind those that were found before. -/
theorem Quotes.readTextFrom_eq (quotes : Quotes text chars rest) (found : List Char) :
    readTextFrom chars found = .ok (found.reverse ++ text, rest) := by
  -- Each step of the phrase is one call of the reader, which puts one character in front.
  induction quotes generalizing found with
  | done rest => simp [readTextFrom]
  | plain plain more ih => simp [plain.readTextFrom_eq, ih]
  | letter known more ih => simp [readTextFrom_letter known, ih]
  | unit digits scalar more ih => simp [readTextFrom_point (readCodePoint_scalar digits scalar), ih]
  | pair digits leading digits' trailing more ih =>
    simp [readTextFrom_point (readCodePoint_pair digits leading digits' trailing), ih]

/-- What is quoted is some characters, or reading it fails. -/
theorem Quoted.exists_quotes_or_fault (quoted : Quoted chars rest) (found : List Char) :
    (∃ text, Quotes text chars rest) ∨ ∃ fault, readTextFrom chars found = .error fault := by
  -- The induction is on the number of characters, as a pair of surrogates is two steps.
  induction length : chars.length using Nat.strong_induction_on generalizing chars found with
  | _ length ih =>
    cases quoted with
    | done => exact .inl ⟨[], .done rest⟩
    | @plain char chars _ plain more =>
      rw [List.length_cons] at length
      rw [plain.readTextFrom_eq]
      exact (ih chars.length (by omega) more _ rfl).imp_left fun ⟨text, quotes⟩ => ⟨_, .plain plain quotes⟩
    | @letter letter char chars _ known more =>
      rw [List.length_cons, List.length_cons] at length
      rw [readTextFrom_letter known]
      exact (ih chars.length (by omega) more _ rfl).imp_left
        fun ⟨text, quotes⟩ => ⟨_, .letter known quotes⟩
    | @unit unit chars behind _ digits more =>
      have shorter := digits.length_lt
      rw [List.length_cons, List.length_cons] at length
      by_cases scalar : unit < 0xD800 ∨ 0xDFFF < unit
      · rw [readTextFrom_point (readCodePoint_scalar digits scalar)]
        exact (ih behind.length (by omega) more _ rfl).imp_left fun ⟨text, quotes⟩ => ⟨_, .unit digits scalar quotes⟩
      · -- A surrogate is read together with another one, or not at all.
        by_cases paired : unit ≤ 0xDBFF ∧ ∃ unit' between after, behind = '\\' :: 'u' :: between ∧
            FourDigits unit' between after ∧ (0xDC00 ≤ unit' ∧ unit' ≤ 0xDFFF) ∧ Quoted after rest
        · obtain ⟨leading, unit', between, after, rfl, digits', trailing, more⟩ := paired
          have shorter' := digits'.length_lt
          simp only [List.length_cons] at shorter
          have bounds : 0xD800 ≤ unit ∧ unit ≤ 0xDBFF := by omega
          rw [readTextFrom_point (readCodePoint_pair digits bounds digits' trailing)]
          exact (ih after.length (by omega) more _ rfl).imp_left
            fun ⟨text, quotes⟩ => ⟨_, .pair digits bounds digits' trailing quotes⟩
        · -- A half of a pair that stands alone is a fault, wherever it stands.
          obtain ⟨fault, refused⟩ := readCodePoint_unpaired digits (by omega) fun leading between same => by
            subst same
            cases more with
            | plain plain more => exact absurd rfl plain.backslash
            | letter known more => exact absurd rfl (ne_of_mem_escapes known)
            | unit digits' more =>
              exact ⟨_, _, digits', fun trailing => paired ⟨leading, _, _, _, rfl, digits', trailing, more⟩⟩
          exact .inr ⟨fault, readTextFrom_no_point refused _⟩

/-- What is quoted is read exactly if it is a text. -/
theorem QuotesText.toOption_readText {text : Option String} (quotes : QuotesText text chars rest) :
    (readText chars).toOption = text.map (·, rest) := by
  cases text with
  | some text =>
    rw [readText, Quotes.readTextFrom_eq quotes]
    simp [Except.toOption]
  | none =>
    -- A phrase that is no text cannot be read as one, so the reader must fail.
    obtain ⟨quoted, none⟩ := quotes
    obtain ⟨text, some_⟩ | ⟨fault, refused⟩ := quoted.exists_quotes_or_fault []
    · exact absurd some_ (none text)
    · rw [readText, refused]
      rfl

end Texts

section Values

variable {around outer : List Bracket} {first : Char} {value : Value}

/-- A bracket that is opened is one more around the place. -/
theorem skipFrom_value_list (opened : skipBlank chars = '[' :: rest) :
    skipFrom .value around chars = skipFrom .opened (.list :: around) rest := by
  rw [skipFrom]
  split <;> simp_all

/-- So is a brace. -/
theorem skipFrom_value_object (opened : skipBlank chars = '\x7b' :: rest) :
    skipFrom .value around chars = skipFrom .opened (.object :: around) rest := by
  rw [skipFrom]
  split <;> simp_all

/-- Any other value is passed over at once. -/
theorem skipFrom_value_scalar (list : ∀ rest, skipBlank chars ≠ '[' :: rest)
    (object : ∀ rest, skipBlank chars ≠ '\x7b' :: rest) (scalar : skipScalar (skipBlank chars) = .ok rest) :
    skipFrom .value around chars = skipFrom .after around rest := by
  rw [skipFrom]
  split
  · simp_all
  · simp_all
  · split <;> simp_all

/-- A bracket that is closed right away is behind the place. -/
theorem skipFrom_opened_end (bracket : Bracket) (ended : skipBlank chars = bracket.ending :: rest) :
    skipFrom .opened (bracket :: outer) chars = skipFrom .after outer rest := by
  -- The general equation is opened, since the bracket is not known.
  rw [skipFrom.eq_def]
  dsimp only
  split <;> simp_all

/-- Otherwise the first element of a list follows. -/
theorem skipFrom_opened_element (opened : skipBlank chars = first :: rest) (other : first ≠ ']') :
    skipFrom .opened (.list :: outer) chars = skipFrom .value (.list :: outer) chars := by
  rw [skipFrom.eq_def]
  dsimp only
  split <;> simp_all [Bracket.ending]

/-- And in an object the value of the first member. -/
theorem skipFrom_opened_member (opened : skipBlank chars = first :: rest) (other : first ≠ '\x7d')
    (key : skipKey chars = .ok behind) :
    skipFrom .opened (.object :: outer) chars = skipFrom .value (.object :: outer) behind := by
  rw [skipFrom.eq_def]
  dsimp only
  split
  · simp_all
  · rename_i same
    rw [opened, List.cons.injEq] at same
    rw [if_neg (by rw [← same.1]; exact other)]
    split <;> simp_all

/-- A bracket that is closed after a value is behind the place. -/
theorem skipFrom_after_end (bracket : Bracket) (ended : skipBlank chars = bracket.ending :: rest) :
    skipFrom .after (bracket :: outer) chars = skipFrom .after outer rest := by
  rw [skipFrom.eq_def]
  dsimp only
  split <;> simp_all

/-- After a comma another element follows. -/
theorem skipFrom_after_element (comma : skipBlank chars = ',' :: rest) :
    skipFrom .after (.list :: outer) chars = skipFrom .value (.list :: outer) rest := by
  rw [skipFrom.eq_def]
  dsimp only
  split <;> simp_all [Bracket.ending]

/-- And in an object the value of another member. -/
theorem skipFrom_after_member (comma : skipBlank chars = ',' :: rest) (key : skipKey rest = .ok behind) :
    skipFrom .after (.object :: outer) chars = skipFrom .value (.object :: outer) behind := by
  rw [skipFrom.eq_def]
  dsimp only
  split
  · simp_all
  · rename_i same
    rw [comma, List.cons.injEq] at same
    obtain ⟨rfl, rfl⟩ := same
    rw [if_neg (by decide), if_pos rfl]
    split <;> simp_all

/-- A value can end before what goes on with a bracket, or ends it. -/
theorem ends_cons (closes : first = ',' ∨ first = ']' ∨ first = '\x7d') (rest : List Char) : Ends (first :: rest) := by
  intro char head
  rw [List.head?_cons, Option.some_inj] at head
  exact .inr (head ▸ closes)

/-- It can end before the blanks there as well. -/
theorem Blanks.ends (blanks : Blanks behind rest) (ends : Ends rest) : Ends behind := by
  obtain ⟨blanks, blank, rfl⟩ := blanks
  -- The first blank, if there is one, is a place for a value to end by itself.
  cases blanks with
  | nil => exact ends
  | cons first more =>
    intro char head
    rw [List.cons_append, List.head?_cons, Option.some_inj] at head
    exact .inl (head ▸ blank first List.mem_cons_self)

/-- Elements begin with a value. -/
theorem Stands.skipBlank_elements {values : List Value} (stands : Stands (.elements values) chars rest) :
    ∃ first more, skipBlank chars = first :: more ∧ opensValue first = true := by
  -- Both ways to make elements begin with one.
  have element {value : Value} {rest : List Char} (stands : Stands (.element value) chars rest) :
      ∃ first more, skipBlank chars = first :: more ∧ opensValue first = true := by
    cases stands with
    | element blanks stands _ =>
      obtain ⟨first, more, rfl, opens⟩ := stands.exists_first
      exact ⟨first, more, blanks.skipBlank_cons (isBlank_of_opensValue opens), opens⟩
  cases stands with
  | lastElement last => exact element last
  | elements first _ => exact element first

/-- Members begin with a quote. -/
theorem Stands.skipBlank_members {members : List (Option String × Value)}
    (stands : Stands (.members members) chars rest) : ∃ quoted, skipBlank chars = '"' :: quoted := by
  -- One or several, the first member begins with its key.
  have member {member : Option String × Value} {rest : List Char} (stands : Stands (.member member) chars rest) :
      ∃ quoted, skipBlank chars = '"' :: quoted := by
    cases stands with
    | member blanks => exact ⟨_, blanks.skipBlank_cons (by decide)⟩
  cases stands with
  | lastMember last => exact member last
  | members first _ => exact member first

/-- What it is for a phrase that it is passed over; a value is so together with blanks before it. -/
def Passed : Phrase → List Char → List Char → Prop
  | .value _, inner, rest => Ends rest →
      ∀ chars, Blanks chars inner → ∀ around, skipFrom .value around chars = skipFrom .after around rest
  | .element _, chars, rest => Ends rest →
      ∃ behind, Blanks behind rest ∧ ∀ around, skipFrom .value around chars = skipFrom .after around behind
  | .elements _, chars, rest => ∀ tail, rest = ']' :: tail →
      ∀ outer, skipFrom .value (.list :: outer) chars = skipFrom .after outer tail
  | .member _, chars, rest => Ends rest →
      ∃ inner behind, skipKey chars = .ok inner ∧ Blanks behind rest ∧
        ∀ around, skipFrom .value around inner = skipFrom .after around behind
  | .members _, chars, rest => ∀ tail, rest = '\x7d' :: tail →
      ∃ inner, skipKey chars = .ok inner ∧
        ∀ outer, skipFrom .value (.object :: outer) inner = skipFrom .after outer tail

/-- A value that is no list and no object is passed over if it is as a scalar. -/
theorem passed_of_skipScalar {more : List Char} (opens : opensValue first = true) (list : first ≠ '[')
    (object : first ≠ '\x7b') (scalar : skipScalar (first :: more) = .ok rest) (blanks : Blanks chars (first :: more)) :
    skipFrom .value around chars = skipFrom .after around rest := by
  -- Its first character is neither blank nor a bracket, so the scalar is tried there.
  have solid := blanks.skipBlank_cons (isBlank_of_opensValue opens)
  refine skipFrom_value_scalar (fun _ => ?_) (fun _ => ?_) (by rw [solid, scalar])
  · rw [solid]
    exact fun same => list (List.cons.inj same).1
  · rw [solid]
    exact fun same => object (List.cons.inj same).1

/-- A number is passed over. -/
theorem Number.Stands.skipScalar_eq (number : Number.Stands chars rest) (ends : Ends rest) :
    skipScalar chars = .ok rest := by
  -- A sign is passed over before the digits are.
  cases number with
  | plain unsigned =>
    have passed := unsigned.skip_eq ends
    obtain ⟨first, more, rfl, digit⟩ := unsigned.exists_first
    unfold skipScalar
    split <;> simp_all
  | minus unsigned => exact unsigned.skip_eq ends

/-- Every phrase is passed over. -/
theorem Stands.passed {phrase : Phrase} (stands : Stands phrase chars rest) : Passed phrase chars rest := by
  -- The induction is on the phrase; what is inside brackets is passed over with them around the place.
  induction stands with
  | null rest => exact fun _ chars blanks around => passed_of_skipScalar (by decide) (by decide) (by decide) rfl blanks
  | yes rest => exact fun _ chars blanks around => passed_of_skipScalar (by decide) (by decide) (by decide) rfl blanks
  | no rest => exact fun _ chars blanks around => passed_of_skipScalar (by decide) (by decide) (by decide) rfl blanks
  | @number spelling rest number =>
    intro ends chars blanks around
    have scalar := number.skipScalar_eq ends
    obtain ⟨first, more, same, begins⟩ := number.exists_first
    rw [same] at scalar blanks
    have opens : opensValue first = true ∧ first ≠ '[' ∧ first ≠ '\x7b' := by
      obtain rfl | digit := begins
      · decide
      · refine ⟨by simp [opensValue, digit], ?_, ?_⟩ <;> rintro rfl <;> cases digit
    exact passed_of_skipScalar opens.1 opens.2.1 opens.2.2 scalar blanks
  | @text text quoted rest quotes =>
    have scalar : skipScalar ('"' :: quoted) = .ok rest := quotes.quoted.skipText_eq
    exact fun _ chars blanks around => passed_of_skipScalar (by decide) (by decide) (by decide) scalar blanks
  | emptyList blanks =>
    intro _ chars before around
    rw [skipFrom_value_list (before.skipBlank_cons (by decide)),
      skipFrom_opened_end .list (blanks.skipBlank_cons (by decide))]
  -- The elements end with the bracket, so they leave the place behind it.
  | list inside ih =>
    intro _ chars before around
    obtain ⟨first, more, opened, opens⟩ := inside.skipBlank_elements
    rw [skipFrom_value_list (before.skipBlank_cons (by decide)),
      skipFrom_opened_element opened (ne_of_opensValue opens (by decide)), ih _ rfl]
  | emptyObject blanks =>
    intro _ chars before around
    rw [skipFrom_value_object (before.skipBlank_cons (by decide)),
      skipFrom_opened_end .object (blanks.skipBlank_cons (by decide))]
  | object inside ih =>
    intro _ chars before around
    obtain ⟨quoted, opened⟩ := inside.skipBlank_members
    obtain ⟨inner, key, passed⟩ := ih _ rfl
    rw [skipFrom_value_object (before.skipBlank_cons (by decide)), skipFrom_opened_member opened (by decide) key,
      passed]
  | element blanks stands blanks' ih => exact fun ends => ⟨_, blanks', ih (blanks'.ends ends) _ blanks⟩
  | lastElement last ih =>
    rintro tail rfl outer
    obtain ⟨behind, blanks, passed⟩ := ih (ends_cons (by decide) _)
    rw [passed, skipFrom_after_end .list (blanks.skipBlank_cons (by decide))]
  | elements first more ih ih' =>
    rintro tail rfl outer
    obtain ⟨behind, blanks, passed⟩ := ih (ends_cons (by decide) _)
    rw [passed, skipFrom_after_element (blanks.skipBlank_cons (by decide)), ih' _ rfl]
  -- The key goes first; what is left is the element behind its colon.
  | @member key value chars quoted behind inner rest blanks quotes blanks' element ih =>
    intro ends
    obtain ⟨last, blanks'', passed⟩ := ih ends
    refine ⟨inner, last, ?_, blanks'', passed⟩
    simp only [skipKey, blanks.skipBlank_cons (show isBlank '"' = false by decide), quotes.quoted.skipText_eq,
      blanks'.skipBlank_cons (show isBlank ':' = false by decide)]
  | lastMember last ih =>
    rintro tail rfl
    obtain ⟨inner, behind, key, blanks, passed⟩ := ih (ends_cons (by decide) _)
    refine ⟨inner, key, fun outer => ?_⟩
    rw [passed, skipFrom_after_end .object (blanks.skipBlank_cons (by decide))]
  | members first more ih ih' =>
    rintro tail rfl
    obtain ⟨inner, behind, key, blanks, passed⟩ := ih (ends_cons (by decide) _)
    obtain ⟨inner', key', passed'⟩ := ih' _ rfl
    refine ⟨inner, key, fun outer => ?_⟩
    rw [passed, skipFrom_after_member (blanks.skipBlank_cons (by decide)) key', passed']

/-- A value of any shape is passed over. -/
theorem Stands.exists_skipValue (stands : Stands (.element value) chars rest) (ends : Ends rest) :
    ∃ behind, Blanks behind rest ∧ skipValue chars = .ok behind := by
  obtain ⟨behind, blanks, passed⟩ := stands.passed ends
  -- With no bracket around it the value is all there is.
  exact ⟨behind, blanks, by rw [skipValue, passed, skipFrom]⟩

end Values

end ImageHeader.Json
