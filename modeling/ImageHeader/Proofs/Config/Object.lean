import ImageHeader.Config.Json
import ImageHeader.Proofs.Json.Reading

/-!
Configurations as JSON objects: a document is read member by member into settings.

What a member comes to is said of its key and its value, not of the characters that spell them. A value is read where
its field is known, and passed over otherwise.
-/

namespace ImageHeader

namespace Config

open Json (Value Stands QuotesText Blanks Ends Follow Document Fault skipBlank readText quotes_of_stands null_of_stands
  object_of_stands)

variable {start chars rest : List Char} {value : Value} {members : List (Option String × Value)}

/-- What is a text among the values. -/
def textOf? : Value → Option String
  | .text text => text
  | _ => none

/-- The closing policy that an object names by its only key, with a null as its value. -/
def policyOfMembers? : List (Option String × Value) → Option ClosingPolicy
  | [(some name, .null)] => ClosingPolicy.ofName? name
  | _ => none

/-- The setting that a value gives to a field: a text in general, a null for no path, an object for a closing policy. -/
def Setting.ofValue? (field : Field) (value : Value) : Option Setting :=
  match field, value with
  | .xxdPath, .null => some (.xxdPath none)
  | .closing, .object members => (policyOfMembers? members).map .closing
  | _, _ => (textOf? value).bind (ofText? field)

section Reading

variable {α : Type}

/-- A result is the one that there is. -/
theorem toOption_eq_some {result : Except Fault α} {found : α} : result.toOption = some found ↔ result = .ok found := by
  cases result <;> simp [Except.toOption]

/-- There is none where a fault is told. -/
theorem toOption_eq_none {result : Except Fault α} : result.toOption = none ↔ ∃ fault, result = .error fault := by
  cases result <;> simp [Except.toOption]

/-- What is known of a result is read, up to the same place. -/
theorem eq_ok_of_toOption {result : Except Fault (α × List Char)} {known : Option α} {found : α}
    (read : result.toOption = known.map (·, rest)) (there : known = some found) : result = .ok (found, rest) :=
  toOption_eq_some.mp (by rw [read, there, Option.map_some])

/-- Where nothing is known of it a fault is told. -/
theorem exists_error_of_toOption {result : Except Fault (α × List Char)} {known : Option α}
    (read : result.toOption = known.map (·, rest)) (none : known = .none) : ∃ fault, result = .error fault :=
  toOption_eq_none.mp (by rw [read, none, Option.map_none])

/-- A text is read where one is wanted, and nothing else. -/
theorem toOption_readWanted (blanks : Blanks start chars) (stands : Stands (.value value) chars rest)
    (wanted : String) : (readWanted wanted start).toOption = (textOf? value).map (·, rest) := by
  -- What a value is shows in its first character, and a text alone begins with a quote.
  obtain ⟨first, more, same, found⟩ := stands.exists_skipBlank blanks
  rw [readWanted, found]
  by_cases quote : first = '"'
  · subst quote
    obtain ⟨text, rfl, quotes⟩ := quotes_of_stands stands same
    exact quotes.toOption_readText
  · have none : textOf? value = none := by
      cases stands with
      | text => exact absurd (List.cons.inj same).1.symm quote
      | _ => rfl
    rw [none]
    split
    · simp_all
    · simp_all
    · rfl

/-- A result that is mapped is there exactly if the result is. -/
theorem toOption_map {β : Type} (result : Except Fault α) (f : α → β) :
    (result.map f).toOption = result.toOption.map f := by
  cases result <;> rfl

/-- A path is read, or a null for none. -/
theorem toOption_readOptionalPath (blanks : Blanks start chars) (stands : Stands (.value value) chars rest) :
    (readSetting .xxdPath start).toOption = (Setting.ofValue? .xxdPath value).map (·, rest) := by
  obtain ⟨first, more, same, found⟩ := stands.exists_skipBlank blanks
  rw [readSetting, toOption_map, readOptionalPath, found]
  by_cases null : first = 'n'
  · -- Only a null begins with this letter.
    subst null
    obtain ⟨rfl, rfl⟩ := null_of_stands stands same
    rfl
  · -- Anything else has to be a text.
    have text : Setting.ofValue? .xxdPath value = (textOf? value).map fun text => .xxdPath (some (.ofText text)) := by
      cases stands with
      | null => exact absurd (List.cons.inj same).1.symm null
      | _ =>
        rw [Option.map_eq_bind]
        rfl
    have unblank : Blanks (first :: more) chars := by
      rw [← same]
      exact .refl chars
    have read := toOption_readWanted unblank stands "path string"
    rw [text]
    split
    · simp_all
    · rw [toOption_map, read]
      cases textOf? value <;> rfl

/-- A null is passed over where nothing else is wanted. -/
theorem skipNull_eq (blanks : Blanks start chars) (stands : Stands (.value .null) chars rest) :
    skipNull start = .ok rest := by
  cases stands with
  | null =>
    rw [skipNull, blanks.skipBlank_cons (by decide)]
    rfl

/-- Nothing else is. -/
theorem exists_skipNull_fault (blanks : Blanks start chars) (stands : Stands (.value value) chars rest)
    (other : value ≠ .null) : ∃ fault, skipNull start = .error fault := by
  obtain ⟨first, more, same, found⟩ := stands.exists_skipBlank blanks
  rw [skipNull, found]
  -- Another value begins with another character.
  have null : first ≠ 'n' := by
    rintro rfl
    exact other (null_of_stands stands same).1
  split
  · exact ⟨_, rfl⟩
  · simp_all
  · exact ⟨_, rfl⟩

/-- An object names a closing policy only by a single key with a null. -/
theorem policyOfMembers?_eq_some {name : String} {policy : ClosingPolicy} {others : List (Option String × Value)}
    (found : policyOfMembers? ((some name, value) :: others) = some policy) :
    value = .null ∧ others = [] ∧ ClosingPolicy.ofName? name = some policy := by
  unfold policyOfMembers? at found
  split at found
  · rename_i same
    cases same
    exact ⟨rfl, rfl, found⟩
  · cases found

/-- A colon is passed over together with the blanks before it. -/
theorem skipColon_eq (colon : Blanks start (':' :: rest)) : skipColon start = .ok rest := by
  rw [skipColon, colon.skipBlank_cons (by decide)]
  rfl

/-- A closing policy is read in the form of an object. -/
theorem toOption_readPolicyObject (stands : Stands (.members members) chars ('\x7d' :: rest)) :
    (readPolicyObject chars).toOption = (policyOfMembers? members).map (·, rest) := by
  -- The key and the null of the first member are read, and the brace must follow; whatever else comes is refused.
  obtain ⟨⟨key, value⟩, others, last, rfl, first, follow⟩ := stands.exists_member
  obtain ⟨quoted, behind, inner, chars', last', blanks, quotes, colon, before, given, after⟩ := first.memberParts
  have readKey := quotes.toOption_readText
  rw [readPolicyObject, blanks.skipBlank_cons (by decide)]
  simp only [readPolicyName]
  cases key with
  | none =>
    -- A key that is no text is a fault before its value is looked at.
    obtain ⟨fault, refused⟩ := toOption_eq_none.mp readKey
    rw [refused]
    cases others <;> rfl
  | some name =>
    have skipped := skipColon_eq colon
    rw [toOption_eq_some.mp readKey]
    simp only
    cases found : policyOfMembers? ((some name, value) :: others) with
    | some policy =>
      obtain ⟨rfl, rfl, named⟩ := policyOfMembers?_eq_some found
      cases follow with
      | done =>
        have ended := after.skipBlank_cons (by decide)
        simp only [named, skipped, skipNull_eq before given, ended]
        rfl
      -- A comma would be followed by another member.
      | comma others => exact absurd rfl others.members_ne_nil
    | none =>
      cases named : ClosingPolicy.ofName? name with
      | none => rfl
      | some policy =>
        simp only [skipped]
        by_cases null : value = .null
        · subst null
          -- There is another member behind the first.
          cases follow with
          | done => simp [policyOfMembers?, named] at found
          | comma others =>
            have comma := after.skipBlank_cons (by decide)
            simp only [skipNull_eq before given, comma]
            rfl
        · obtain ⟨fault, refused⟩ := exists_skipNull_fault before given null
          rw [refused]
          rfl

/-- A closing policy is read. -/
theorem toOption_readPolicy (blanks : Blanks start chars) (stands : Stands (.value value) chars rest) :
    (readSetting .closing start).toOption = (Setting.ofValue? .closing value).map (·, rest) := by
  obtain ⟨first, more, same, found⟩ := stands.exists_skipBlank blanks
  rw [readSetting, toOption_map, readPolicy, found]
  by_cases quote : first = '"'
  · -- A text has to be the name of a policy.
    subst quote
    obtain ⟨text, rfl, quotes⟩ := quotes_of_stands stands same
    have read := quotes.toOption_readText
    simp only [readPolicyName]
    cases text with
    | none =>
      obtain ⟨fault, refused⟩ := toOption_eq_none.mp read
      rw [refused]
      rfl
    | some name =>
      rw [toOption_eq_some.mp read]
      simp only [Setting.ofValue?, textOf?, Option.bind_some, Setting.ofText?]
      cases ClosingPolicy.ofName? name <;> rfl
  · by_cases brace : first = '\x7b'
    · -- An object names one by its only key.
      subst brace
      obtain ⟨rfl, none⟩ | ⟨members, rfl, inside⟩ := object_of_stands stands same
      · simp only [readPolicyObject, none.skipBlank_cons (show Json.isBlank '\x7d' = false by decide)]
        rfl
      · simp only [toOption_readPolicyObject inside, Setting.ofValue?]
        cases policyOfMembers? members <;> rfl
    · -- Anything else is no policy.
      have none : Setting.ofValue? .closing value = none := by
        cases stands with
        | text => exact absurd (List.cons.inj same).1.symm quote
        | emptyObject | object => exact absurd (List.cons.inj same).1.symm brace
        | _ => rfl
      rw [none]
      split
      · simp_all
      · simp_all
      · simp_all
      · rfl

/-- The setting of a field is read from a value that gives one, and from no other. -/
theorem toOption_readSetting (field : Field) (blanks : Blanks start chars) (stands : Stands (.value value) chars rest) :
    (readSetting field start).toOption = (Setting.ofValue? field value).map (·, rest) := by
  -- Two fields take more than texts; all others are read alike.
  cases field with
  | xxdPath => exact toOption_readOptionalPath blanks stands
  | closing => exact toOption_readPolicy blanks stands
  | _ =>
    rw [readSetting, toOption_map, toOption_readWanted blanks stands]
    simp only [Setting.ofValue?]
    cases textOf? value <;> rfl

/-- The settings after a member: a known key adds the setting of its field, which must be the first. -/
def joined? (settings : List Setting) : Option String × Value → Option (List Setting)
  | (none, _) => none
  | (some key, value) =>
    match Field.ofName? key with
    | none => some settings
    | some field =>
      if settings.any fun setting => setting.field = field then none
      else (Setting.ofValue? field value).map fun setting => settings ++ [setting]

/-- A member is read, whatever its value. -/
theorem exists_readKeyed {member : Option String × Value} (stands : Stands (.member member) chars rest)
    (ends : Ends rest) (settings : List Setting) : ∃ quoted behind, skipBlank chars = '"' :: quoted ∧
      Blanks behind rest ∧ (readKeyed settings quoted).toOption = (joined? settings member).map (·, behind) := by
  obtain ⟨key, value⟩ := member
  obtain ⟨quoted, behind, inner, chars', last, blanks, quotes, colon, before, given, after⟩ := stands.memberParts
  have readKey := quotes.toOption_readText
  have opened := blanks.skipBlank_cons (by decide)
  -- The key decides whether the value is read or passed over.
  cases key with
  | none =>
    obtain ⟨fault, refused⟩ := toOption_eq_none.mp readKey
    refine ⟨quoted, last, opened, after, ?_⟩
    rw [readKeyed, refused]
    rfl
  | some key =>
    have read : readKeyed settings quoted = readMember settings key behind := by
      rw [readKeyed, toOption_eq_some.mp readKey]
    suffices joined : ∃ last, Blanks last rest ∧
        (readMember settings key behind).toOption = (joined? settings (some key, value)).map (·, last) by
      obtain ⟨last, after, same⟩ := joined
      exact ⟨quoted, last, opened, after, by rw [read, same]⟩
    simp only [readMember, joined?, skipColon_eq colon]
    cases Field.ofName? key with
    | none =>
      -- A value that is not wanted may be any.
      obtain ⟨last, after, skipped⟩ := (Stands.element before given after).exists_skipValue ends
      refine ⟨last, after, ?_⟩
      simp only [skipped]
      rfl
    | some field =>
      refine ⟨last, after, ?_⟩
      simp only
      split
      · rfl
      · rw [toOption_map, toOption_readSetting field before given]
        cases Setting.ofValue? field value <;> rfl

/-- A member can be read before what follows it. -/
theorem ends_of_follow (follow : Follow members chars ('\x7d' :: rest)) : Ends chars := by
  cases follow with
  | done => exact Json.ends_cons (by decide) _
  | comma => exact Json.ends_cons (by decide) _

/-- What follows a member is read up to the brace. -/
theorem toOption_readMembers (follow : Follow members chars ('\x7d' :: rest)) (blanks : Blanks start chars)
    (settings : List Setting) {fuel : Nat} (enough : members.length < fuel) :
    (readMembers fuel settings start).toOption = (members.foldlM joined? settings).map (·, rest) := by
  -- The induction is on the members; each of them joins the settings before the next.
  induction members generalizing settings chars start fuel with
  | nil =>
    obtain ⟨fuel, rfl⟩ := Nat.exists_eq_add_one_of_ne_zero (Nat.ne_zero_of_lt enough)
    cases follow with
    | done =>
      rw [readMembers, blanks.skipBlank_cons (by decide)]
      rfl
    -- Behind a comma there is a member.
    | comma more => exact absurd rfl more.members_ne_nil
  | cons member others ih =>
    obtain ⟨fuel, rfl⟩ := Nat.exists_eq_add_one_of_ne_zero (Nat.ne_zero_of_lt enough)
    cases follow with
    | comma more =>
      obtain ⟨_, _, behind, same, first, follow⟩ := more.exists_member
      obtain ⟨rfl, rfl⟩ := List.cons.inj same
      obtain ⟨quoted, last, quote, after, read⟩ := exists_readKeyed first (ends_of_follow follow) settings
      rw [readMembers, blanks.skipBlank_cons (by decide)]
      simp only [quote, List.foldlM_cons]
      cases joined : joined? settings member with
      | none =>
        obtain ⟨fault, refused⟩ := exists_error_of_toOption read joined
        rw [refused]
        rfl
      | some joined' =>
        rw [eq_ok_of_toOption read joined]
        exact ih follow after joined' (Nat.lt_of_succ_lt_succ enough)

/-- There are no more members behind another one than characters. -/
theorem length_le_of_follow (follow : Follow members chars rest) : members.length ≤ chars.length := by
  cases follow with
  | done => exact Nat.zero_le _
  | comma more => exact Nat.le_succ_of_le more.length_members_le

/-- The inside of an object is read member by member. -/
theorem toOption_readObject (stands : Stands (.members members) chars ('\x7d' :: rest)) :
    (readObject chars).toOption = (members.foldlM joined? []).map (·, rest) := by
  -- The first member has no comma before it, and is read apart from the others.
  obtain ⟨member, others, behind, rfl, first, follow⟩ := stands.exists_member
  obtain ⟨quoted, last, quote, after, read⟩ := exists_readKeyed first (ends_of_follow follow) []
  rw [readObject, quote, List.foldlM_cons]
  simp only
  cases joined : joined? [] member with
  | none =>
    obtain ⟨fault, refused⟩ := exists_error_of_toOption read joined
    rw [refused]
    rfl
  | some settings =>
    have fewer := length_le_of_follow follow
    have longer := after.length_le
    rw [eq_ok_of_toOption read joined]
    exact toOption_readMembers follow after settings (by omega)

/-- The settings of a document are read member by member. -/
theorem toOption_settingsOfJson {text : String} (document : Document text (.object members)) :
    (settingsOfJson text).toOption = members.foldlM joined? [] := by
  obtain ⟨inner, behind, blanks, stands, blanks'⟩ : ∃ inner behind, Blanks text.toList inner ∧
      Stands (.value (.object members)) inner behind ∧ Blanks behind [] := by
    cases document with
    | element blanks stands blanks' => exact ⟨_, _, blanks, stands, blanks'⟩
  have ended : skipBlank behind = [] := blanks'.skipBlank_eq
  -- Empty or not, an object begins with its brace.
  obtain ⟨inside, rfl⟩ : ∃ inside, inner = '\x7b' :: inside := by
    cases stands <;> exact ⟨_, rfl⟩
  have opened := blanks.skipBlank_cons (by decide)
  have read : (readSettings text.toList).toOption = (members.foldlM joined? []).map (·, behind) := by
    rw [readSettings, opened]
    obtain ⟨none, inside⟩ | ⟨_, same, inside⟩ := object_of_stands stands rfl
    · cases none
      simp only [readObject, inside.skipBlank_cons (show Json.isBlank '\x7d' = false by decide)]
      rfl
    · cases same
      exact toOption_readObject inside
  -- Behind the object nothing but blanks is left, so reading it ends the text.
  rw [settingsOfJson]
  cases joined : members.foldlM joined? [] with
  | none =>
    obtain ⟨fault, refused⟩ := exists_error_of_toOption read joined
    rw [refused]
    rfl
  | some settings =>
    rw [eq_ok_of_toOption read joined]
    simp only [ended, if_true]
    rfl

end Reading

end Config

end ImageHeader
