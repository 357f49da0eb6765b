import ImageHeader.Proofs.Json.Reading

/-!
Decoding JSON: a text is at most one value.

A phrase may leave some of the blanks behind it to others, but no more than that. What stands behind it is therefore
known up to blanks, and whatever comes next is no blank.
-/

namespace ImageHeader.Json

variable {chars rest rest' : List Char}

/-- A quote closes one text only, or the same that is no text. -/
theorem QuotesText.unique {text text' : Option String} (quotes : QuotesText text chars rest)
    (quotes' : QuotesText text' chars rest') : text' = text ∧ rest' = rest := by
  -- Passing over a text stops behind its closing quote, whatever the text is.
  have same : rest' = rest := Except.ok.inj (quotes'.quoted.skipText_eq.symm.trans quotes.quoted.skipText_eq)
  subst same
  have read := quotes'.toOption_readText.symm.trans quotes.toOption_readText
  cases text <;> cases text' <;> simp_all

/-- Blanks lead to one character that is none. -/
theorem Blanks.cons_unique {first first' : Char} {more more' : List Char} (blanks : Blanks chars (first :: more))
    (blanks' : Blanks chars (first' :: more')) (solid : isBlank first = false) (solid' : isBlank first' = false) :
    first' = first ∧ more' = more :=
  List.cons.inj ((blanks'.skipBlank_cons solid').symm.trans (blanks.skipBlank_cons solid))

/-- No list or object with something inside is empty. -/
theorem Stands.not_blanks_elements {values : List Value} (stands : Stands (.elements values) chars rest) :
    ¬Blanks chars (']' :: rest') := by
  intro blanks
  -- Something inside opens a value, which a bracket does not.
  obtain ⟨first, more, opened, opens⟩ := stands.skipBlank_elements
  have same := (blanks.skipBlank_cons (by decide)).symm.trans opened
  exact ne_of_opensValue opens (by decide) (List.cons.inj same).1.symm

/-- The same for the members of an object. -/
theorem Stands.not_blanks_members {members : List (Option String × Value)}
    (stands : Stands (.members members) chars rest) : ¬Blanks chars ('\x7d' :: rest') := by
  intro blanks
  -- A member opens with a quote.
  obtain ⟨quoted, opened⟩ := stands.skipBlank_members
  have same := (blanks.skipBlank_cons (by decide)).symm.trans opened
  exact absurd (List.cons.inj same).1 (by decide)

/-- What it is for a phrase that no other of its kind stands in its place. -/
def Settled : Phrase → List Char → List Char → Prop
  | .value value, chars, rest => Ends rest → ∀ value' rest', Stands (.value value') chars rest' → Ends rest' →
      value' = value ∧ rest' = rest
  | .element value, chars, rest => Ends rest → ∀ value' rest', Stands (.element value') chars rest' → Ends rest' →
      value' = value ∧ skipBlank rest' = skipBlank rest
  | .elements values, chars, rest => ∀ tail, rest = ']' :: tail →
      ∀ values' tail', Stands (.elements values') chars (']' :: tail') → values' = values ∧ tail' = tail
  | .member member, chars, rest => Ends rest → ∀ member' rest', Stands (.member member') chars rest' → Ends rest' →
      member' = member ∧ skipBlank rest' = skipBlank rest
  | .members members, chars, rest => ∀ tail, rest = '\x7d' :: tail →
      ∀ members' tail', Stands (.members members') chars ('\x7d' :: tail') → members' = members ∧ tail' = tail

/-- No phrase stands in the place of another one. -/
theorem Stands.settled {phrase : Phrase} (stands : Stands phrase chars rest) : Settled phrase chars rest := by
  -- The induction is on the phrase; the other one begins with the same character, and so is of the same shape.
  induction stands with
  | null rest =>
    intro _ value' rest' stands' _
    obtain ⟨same, behind⟩ := null_of_stands stands' rfl
    exact ⟨same, (List.append_cancel_left behind).symm⟩
  | yes rest =>
    intro _ value' rest' stands' _
    obtain ⟨same, behind⟩ := truth_of_stands true stands' rfl
    exact ⟨same, (List.append_cancel_left behind).symm⟩
  | no rest =>
    intro _ value' rest' stands' _
    obtain ⟨same, behind⟩ := truth_of_stands false stands' rfl
    exact ⟨same, (List.append_cancel_left behind).symm⟩
  | @number spelling rest number =>
    intro ends value' rest' stands' ends'
    obtain ⟨first, more, same, begins⟩ := number.exists_first
    obtain ⟨spelling', rfl, spelled, number'⟩ := number_of_stands stands' same begins
    -- Both numbers go on as long as they can.
    have behind : rest' = rest :=
      Except.ok.inj ((number'.skipScalar_eq ends').symm.trans (number.skipScalar_eq ends))
    subst behind
    exact ⟨congrArg Value.number (List.append_cancel_right spelled).symm, rfl⟩
  | text quotes =>
    intro _ value' rest' stands' _
    -- What begins with a quote is a text.
    obtain ⟨text', rfl, quotes'⟩ := quotes_of_stands stands' rfl
    obtain ⟨rfl, rfl⟩ := quotes.unique quotes'
    exact ⟨rfl, rfl⟩
  -- An empty list and one with something inside cannot both stand here.
  | emptyList blanks =>
    intro _ value' rest' stands' _
    rcases list_of_stands stands' rfl with ⟨rfl, blanks'⟩ | ⟨values', rfl, inside'⟩
    · exact ⟨rfl, (blanks.cons_unique blanks' (by decide) (by decide)).2⟩
    · exact absurd blanks inside'.not_blanks_elements
  | list inside ih =>
    intro _ value' rest' stands' _
    rcases list_of_stands stands' rfl with ⟨rfl, blanks'⟩ | ⟨values', rfl, inside'⟩
    · exact absurd blanks' inside.not_blanks_elements
    · obtain ⟨rfl, rfl⟩ := ih _ rfl _ _ inside'
      exact ⟨rfl, rfl⟩
  | emptyObject blanks =>
    intro _ value' rest' stands' _
    rcases object_of_stands stands' rfl with ⟨rfl, blanks'⟩ | ⟨members', rfl, inside'⟩
    · exact ⟨rfl, (blanks.cons_unique blanks' (by decide) (by decide)).2⟩
    · exact absurd blanks inside'.not_blanks_members
  | object inside ih =>
    intro _ value' rest' stands' _
    rcases object_of_stands stands' rfl with ⟨rfl, blanks'⟩ | ⟨members', rfl, inside'⟩
    · exact absurd blanks' inside.not_blanks_members
    · obtain ⟨rfl, rfl⟩ := ih _ rfl _ _ inside'
      exact ⟨rfl, rfl⟩
  | element blanks stands blanksBehind ih =>
    intro ends value' rest' stands' ends'
    cases stands' with
    | element blanks' stands' blanksBehind' =>
      -- Both values begin with the first character that is no blank.
      obtain ⟨first, more, rfl, opened⟩ := stands.exists_skipBlank blanks
      obtain ⟨first', more', rfl, opened'⟩ := stands'.exists_skipBlank blanks'
      obtain ⟨rfl, rfl⟩ := List.cons.inj (opened'.symm.trans opened)
      obtain ⟨rfl, rfl⟩ := ih (blanksBehind.ends ends) _ _ stands' (blanksBehind'.ends ends')
      exact ⟨rfl, blanksBehind'.skipBlank_eq.symm.trans blanksBehind.skipBlank_eq⟩
  -- Behind an element either a bracket or a comma stands, and never both.
  | lastElement last ih =>
    rintro tail rfl values' tail' stands'
    have ends (rest : List Char) : Ends (']' :: rest) := ends_cons (by decide) rest
    cases stands' with
    | lastElement last' =>
      obtain ⟨rfl, behind⟩ := ih (ends _) _ _ last' (ends _)
      exact ⟨rfl, (List.cons.inj behind).2⟩
    | elements first' more' =>
      obtain ⟨_, behind⟩ := ih (ends _) _ _ first' (ends_cons (by decide) _)
      exact absurd (List.cons.inj behind).1 (by decide)
  | elements first more ih ih' =>
    rintro tail rfl values' tail' stands'
    have ends (rest : List Char) : Ends (',' :: rest) := ends_cons (by decide) rest
    cases stands' with
    | lastElement last' =>
      obtain ⟨_, behind⟩ := ih (ends _) _ _ last' (ends_cons (by decide) _)
      exact absurd (List.cons.inj behind).1 (by decide)
    | elements first' more' =>
      obtain ⟨rfl, behind⟩ := ih (ends _) _ _ first' (ends _)
      obtain rfl := (List.cons.inj behind).2
      obtain ⟨rfl, rfl⟩ := ih' _ rfl _ _ more'
      exact ⟨rfl, rfl⟩
  | member blanks quotes blanksBehind element ih =>
    intro ends member' rest' stands' ends'
    cases stands' with
    | member blanks' quotes' blanksBehind' element' =>
      -- Key, colon and value are found one after the other.
      obtain ⟨_, rfl⟩ := blanks.cons_unique blanks' (by decide) (by decide)
      obtain ⟨rfl, rfl⟩ := quotes.unique quotes'
      obtain ⟨_, rfl⟩ := blanksBehind.cons_unique blanksBehind' (by decide) (by decide)
      obtain ⟨rfl, behind⟩ := ih ends _ _ element' ends'
      exact ⟨rfl, behind⟩
  | lastMember last ih =>
    rintro tail rfl members' tail' stands'
    have ends (rest : List Char) : Ends ('\x7d' :: rest) := ends_cons (by decide) rest
    cases stands' with
    | lastMember last' =>
      obtain ⟨rfl, behind⟩ := ih (ends _) _ _ last' (ends _)
      exact ⟨rfl, (List.cons.inj behind).2⟩
    | members first' more' =>
      obtain ⟨_, behind⟩ := ih (ends _) _ _ first' (ends_cons (by decide) _)
      exact absurd (List.cons.inj behind).1 (by decide)
  | members first more ih ih' =>
    rintro tail rfl members' tail' stands'
    have ends (rest : List Char) : Ends (',' :: rest) := ends_cons (by decide) rest
    cases stands' with
    | lastMember last' =>
      obtain ⟨_, behind⟩ := ih (ends _) _ _ last' (ends_cons (by decide) _)
      exact absurd (List.cons.inj behind).1 (by decide)
    | members first' more' =>
      obtain ⟨rfl, behind⟩ := ih (ends _) _ _ first' (ends _)
      obtain rfl := (List.cons.inj behind).2
      obtain ⟨rfl, rfl⟩ := ih' _ rfl _ _ more'
      exact ⟨rfl, rfl⟩

/-- Nothing is left where a text ends. -/
theorem ends_nil : Ends [] := by
  intro char head
  cases head

/-- A text is at most one value. -/
theorem Document.unique {text : String} {value value' : Value} (document : Document text value)
    (document' : Document text value') : value' = value :=
  (Stands.settled document ends_nil _ _ document' ends_nil).1

end ImageHeader.Json
