import ImageHeader.Proofs.Config.Loading
import ImageHeader.Proofs.Config.Object
import Mathlib.Data.List.Perm.Basic

/-!
Order: a configuration that is loaded from a JSON object does not depend on how the object is written.

Which settings a document gives depends on its known members alone, and as no field is given twice, the configuration
does not depend on their order.
-/

namespace ImageHeader

namespace Config

open Json (Value Stands QuotesText Document)

section Meaning

variable {config : Config} {setting : Setting} {settings settings' : List Setting} {field : Field}

/-- The setting of a field in a configuration. -/
def settingAt (config : Config) : Field → Setting
  | .output => .output config.output
  | .intermediate => .intermediate config.intermediate
  | .guard => .guard config.guard
  | .included => .included config.included
  | .elementType => .elementType config.elementType
  | .symbol => .symbol config.symbol
  | .converter => .converter config.converter
  | .xxdPath => .xxdPath config.xxdPath
  | .closing => .closing config.closing

/-- Configurations with the same settings are the same. -/
theorem eq_of_settingAt {config' : Config} (same : ∀ field, config.settingAt field = config'.settingAt field) :
    config = config' := by
  obtain ⟨_, _, _, _, _, _, _, _, _⟩ := config
  obtain ⟨_, _, _, _, _, _, _, _, _⟩ := config'
  -- Each field shows in the setting of its own, so that nothing is left to differ.
  have output := same .output
  have intermediate := same .intermediate
  have guard := same .guard
  have included := same .included
  have elementType := same .elementType
  have symbol := same .symbol
  have converter := same .converter
  have xxdPath := same .xxdPath
  have closing := same .closing
  simp_all [settingAt]

/-- A setting that is applied is that of its field, and no other field has another one than before. -/
theorem settingAt_apply (config : Config) (setting : Setting) (field : Field) :
    (config.apply setting).settingAt field = if setting.field = field then setting else config.settingAt field := by
  cases setting <;> cases field <;> rfl

/-- A field that no setting is about keeps its own. -/
theorem settingAt_foldl_of_notMem (absent : ∀ setting ∈ settings, setting.field ≠ field) :
    (settings.foldl apply config).settingAt field = config.settingAt field := by
  -- The induction is on the settings; none of them touches the field, whatever was applied before.
  induction settings generalizing config with
  | nil => rfl
  | cons first more ih =>
    rw [List.foldl_cons, ih fun setting member => absent setting (List.mem_cons_of_mem _ member), settingAt_apply,
      if_neg (absent first List.mem_cons_self)]

/-- A field that one setting is about has that one. -/
theorem settingAt_foldl_of_mem (once : (settings.map Setting.field).Nodup) (member : setting ∈ settings) :
    (settings.foldl apply config).settingAt setting.field = setting := by
  -- What the field had before does not count, so the configuration is left open.
  induction settings generalizing config with
  | nil => cases member
  | cons first more ih =>
    rw [List.map_cons, List.nodup_cons] at once
    rw [List.foldl_cons]
    obtain rfl | behind := List.mem_cons.mp member
    · -- No other setting is about the same field.
      have others : ∀ other ∈ more, other.field ≠ setting.field := fun other member same =>
        once.1 (same ▸ List.mem_map_of_mem member)
      rw [settingAt_foldl_of_notMem others, settingAt_apply, if_pos rfl]
    · exact ih once.2 behind

/-- Settings in another order make the same configuration, if no field has two. -/
theorem ofSettings_perm (once : (settings.map Setting.field).Nodup) (perm : settings'.Perm settings) :
    ofSettings settings' = ofSettings settings := by
  have once' : (settings'.map Setting.field).Nodup := (perm.map Setting.field).nodup_iff.mpr once
  -- The two configurations are compared field by field.
  refine eq_of_settingAt fun field => ?_
  by_cases given : ∃ setting ∈ settings, setting.field = field
  · -- A field that is given has its one setting in either order.
    obtain ⟨setting, member, rfl⟩ := given
    rw [ofSettings, settingAt_foldl_of_mem once' (perm.mem_iff.mpr member), ofSettings,
      settingAt_foldl_of_mem once member]
  · -- Any other field keeps its default in both.
    have absent : ∀ setting ∈ settings, setting.field ≠ field := fun setting member same =>
      given ⟨setting, member, same⟩
    rw [ofSettings, ofSettings, settingAt_foldl_of_notMem absent,
      settingAt_foldl_of_notMem fun setting member => absent setting (perm.mem_iff.mp member)]

/-- The fields that members are known by, with their values. -/
def knownOf (members : List (Option String × Value)) : List (Field × Value) :=
  members.filterMap fun (key, value) => (key.bind Field.ofName?).map (·, value)

/-- The settings that the known members give. -/
def settingsOf (members : List (Option String × Value)) : List Setting :=
  (knownOf members).filterMap fun known => Setting.ofValue? known.1 known.2

/-- Members that make a configuration: keys are texts, no field is known twice, and each has a value of its kind. -/
structure Acceptable (members : List (Option String × Value)) : Prop where
  keys : ∀ member ∈ members, member.1.isSome
  once : ((knownOf members).map Prod.fst).Nodup
  given : ∀ known ∈ knownOf members, (Setting.ofValue? known.1 known.2).isSome

/-- A setting whose value is a text is about the field that it is given to. -/
theorem Setting.field_of_ofText? {text : String} (given : ofText? field text = some setting) :
    setting.field = field := by
  -- Only for a policy the text is looked at.
  cases field with
  | closing =>
    obtain ⟨policy, -, rfl⟩ := Option.map_eq_some_iff.mp given
    rfl
  | _ =>
    cases given
    rfl

/-- A setting is about the field that it is given to. -/
theorem Setting.field_of_ofValue? {value : Value} (given : ofValue? field value = some setting) :
    setting.field = field := by
  -- A null makes no path, an object makes a policy, and all else is up to the text.
  unfold ofValue? at given
  split at given
  · cases given
    rfl
  · obtain ⟨policy, -, rfl⟩ := Option.map_eq_some_iff.mp given
    rfl
  · obtain ⟨name, -, given⟩ := Option.bind_eq_some_iff.mp given
    exact field_of_ofText? given

/-- A member whose key is known stands before the others that are. -/
theorem knownOf_cons_some {key : String} {field : Field} (known : Field.ofName? key = some field) (value : Value)
    (members : List (Option String × Value)) :
    knownOf ((some key, value) :: members) = (field, value) :: knownOf members := by
  simp [knownOf, known]

/-- A member whose key is not known is none of them. -/
theorem knownOf_cons_none {key : String} (unknown : Field.ofName? key = none) (value : Value)
    (members : List (Option String × Value)) : knownOf ((some key, value) :: members) = knownOf members := by
  simp [knownOf, unknown]

/-- Acceptable members are joined to the settings before them, if their fields are new. -/
theorem foldlM_joined?_of_acceptable {members : List (Option String × Value)}
    (keys : ∀ member ∈ members, member.1.isSome)
    (given : ∀ known ∈ knownOf members, (Setting.ofValue? known.1 known.2).isSome) (before : List Setting)
    (once : (before.map Setting.field ++ (knownOf members).map Prod.fst).Nodup) :
    members.foldlM joined? before = some (before ++ settingsOf members) := by
  -- The induction is on the members; the fields before and those to come are told apart all along.
  induction members generalizing before with
  | nil => simp [settingsOf, knownOf]
  | cons member more ih =>
    obtain ⟨key | key, value⟩ := member
    · -- A key that is no text has been excluded.
      cases keys _ List.mem_cons_self
    · have keys' : ∀ member ∈ more, member.1.isSome := fun member behind => keys member (List.mem_cons_of_mem _ behind)
      rw [List.foldlM_cons, joined?]
      cases known : Field.ofName? key with
      | none =>
        -- An unknown member adds nothing on either side.
        rw [settingsOf, knownOf_cons_none known]
        rw [knownOf_cons_none known] at given once
        exact ih keys' given before once
      | some field =>
        rw [settingsOf, knownOf_cons_some known]
        rw [knownOf_cons_some known] at given once
        obtain ⟨setting, gives⟩ := Option.isSome_iff_exists.mp (given _ List.mem_cons_self)
        have about : setting.field = field := Setting.field_of_ofValue? gives
        -- Its field was not given before, or it would stand twice.
        have fresh : ¬(before.any fun other => other.field = field) = true := by
          intro seen
          obtain ⟨other, earlier, same⟩ := List.any_eq_true.mp seen
          rw [List.nodup_append] at once
          exact once.2.2 _ (List.mem_map_of_mem earlier) _ (by simp) (of_decide_eq_true same)
        have joined := ih keys' (fun known behind => given known (List.mem_cons_of_mem _ behind)) (before ++ [setting])
          (by simpa [about] using once)
        simp only [if_neg fresh, gives, List.filterMap_cons]
        rw [Option.map_some, Option.bind_eq_bind, Option.bind_some, joined, settingsOf, List.append_assoc]
        rfl

/-- Members that are joined are acceptable, and their fields are new. -/
theorem acceptable_of_foldlM_joined? {members : List (Option String × Value)} {before settings : List Setting}
    (joined : members.foldlM joined? before = some settings) : Acceptable members ∧
      ∀ setting ∈ before, setting.field ∉ (knownOf members).map Prod.fst := by
  -- The induction is on the members; the one that is joined first keeps its field from all behind it.
  induction members generalizing before with
  | nil => exact ⟨⟨by simp, by simp [knownOf], by simp [knownOf]⟩, by simp [knownOf]⟩
  | cons member more ih =>
    rw [List.foldlM_cons] at joined
    obtain ⟨middle, first, joined⟩ := Option.bind_eq_some_iff.mp joined
    obtain ⟨⟨keys, once, given⟩, apart⟩ := ih joined
    obtain ⟨key | key, value⟩ := member
    · -- A key that is no text joins nothing.
      cases first
    · have keys' : ∀ member ∈ (some key, value) :: more, member.1.isSome := List.forall_mem_cons.mpr ⟨rfl, keys⟩
      rw [joined?] at first
      cases known : Field.ofName? key with
      | none =>
        rw [known] at first
        cases first
        exact ⟨⟨keys', by rwa [knownOf_cons_none known], by rwa [knownOf_cons_none known]⟩,
          by rwa [knownOf_cons_none known]⟩
      | some field =>
        rw [known] at first
        simp only [Option.ite_none_left_eq_some] at first
        obtain ⟨fresh, first⟩ := first
        obtain ⟨setting, gives, rfl⟩ := Option.map_eq_some_iff.mp first
        have about : setting.field = field := Setting.field_of_ofValue? gives
        -- What is joined behind it is about other fields.
        have new : field ∉ (knownOf more).map Prod.fst := about ▸ apart setting (by simp)
        refine ⟨⟨keys', ?_, ?_⟩, ?_⟩
        · rw [knownOf_cons_some known, List.map_cons, List.nodup_cons]
          exact ⟨new, once⟩
        · rw [knownOf_cons_some known]
          exact List.forall_mem_cons.mpr ⟨by rw [gives]; rfl, given⟩
        · rw [knownOf_cons_some known]
          intro other earlier inside
          rw [List.map_cons, List.mem_cons] at inside
          obtain same | behind := inside
          · exact fresh (List.any_eq_true.mpr ⟨other, earlier, decide_eq_true same⟩)
          · exact apart other (List.mem_append_left _ earlier) behind

variable {members members' : List (Option String × Value)}

/-- A field is known by its name, and by nothing else. -/
theorem Field.ofName?_eq_some {key : String} : ofName? key = some field ↔ key = field.name := by
  constructor
  · intro known
    rw [ofName?] at known
    have found := List.find?_some known
    exact (of_decide_eq_true found).symm
  · rintro rfl
    -- No name is shared by two fields.
    cases field <;> decide

/-- The known members are those with the name of a field. -/
theorem mem_knownOf {value : Value} : (field, value) ∈ knownOf members ↔ (some field.name, value) ∈ members := by
  -- Only the key of a member is looked up; its value is handed on as it is.
  rw [knownOf, List.mem_filterMap]
  constructor
  · rintro ⟨⟨key, _⟩, member, known⟩
    obtain ⟨other, named, same⟩ := Option.map_eq_some_iff.mp known
    cases same
    obtain ⟨name, rfl, named⟩ := Option.bind_eq_some_iff.mp named
    rwa [Field.ofName?_eq_some.mp named] at member
  · intro member
    exact ⟨_, member, by simp [Field.ofName?_eq_some.mpr rfl]⟩

/-- No field has two settings. -/
theorem Acceptable.nodup_settingsOf (acceptable : Acceptable members) :
    ((settingsOf members).map Setting.field).Nodup := by
  -- The fields of the settings are those of the known members, or some of them.
  have fields (known : List (Field × Value)) :
      ((known.filterMap fun known => Setting.ofValue? known.1 known.2).map Setting.field).Sublist
        (known.map Prod.fst) := by
    induction known with
    | nil => exact List.Sublist.refl _
    | cons first more ih =>
      cases gives : Setting.ofValue? first.1 first.2 with
      | none =>
        simp only [List.filterMap_cons, gives, List.map_cons]
        exact ih.cons first.1
      | some setting =>
        simp only [List.filterMap_cons, gives, List.map_cons, Setting.field_of_ofValue? gives]
        exact ih.cons_cons first.1
  exact acceptable.once.sublist (fields (knownOf members))

/-- Members are as acceptable as others with the same known ones, if their keys are texts. -/
theorem Acceptable.of_perm (acceptable : Acceptable members) (keys : ∀ member ∈ members', member.1.isSome)
    (perm : (knownOf members').Perm (knownOf members)) : Acceptable members' where
  keys := keys
  once := (perm.map Prod.fst).nodup_iff.mpr acceptable.once
  given known member := acceptable.given known (perm.mem_iff.mp member)

section Loading

variable {host other : Host} {path path' : Path} {text text' : String}

/-- An object with acceptable members is loaded as the configuration that they make. -/
theorem Acceptable.load_eq (acceptable : Acceptable members) (extension : extensionOf path = "json")
    (held : host.read path = .ok (Utf8.encode text)) (document : Document text (.object members)) :
    load host path = .ok (ofSettings (settingsOf members)) := by
  have joined := foldlM_joined?_of_acceptable acceptable.keys acceptable.given [] (by simpa using acceptable.once)
  have read := toOption_settingsOfJson document
  rw [joined, List.nil_append] at read
  rw [load_json extension held, ofJson, toOption_eq_some.mp read]
  rfl

/-- An object with other members is not parsed. -/
theorem exists_load_error (unacceptable : ¬Acceptable members) (extension : extensionOf path = "json")
    (held : host.read path = .ok (Utf8.encode text)) (document : Document text (.object members)) :
    ∃ detail, load host path = .error (.unparsable path detail) := by
  -- Members that can be joined would be acceptable.
  have read := toOption_settingsOfJson document
  cases joined : members.foldlM joined? [] with
  | some settings => exact absurd (acceptable_of_foldlM_joined? joined).1 unacceptable
  | none =>
    obtain ⟨fault, refused⟩ := toOption_eq_none.mp (read.trans joined)
    refine ⟨fault.message, ?_⟩
    rw [load_json extension held, ofJson, refused]
    rfl

/-- A file with a JSON object is loaded exactly if its members are acceptable. Each field then has the value that is
given to it, or else its default. The same is loaded from any other file with an object of the same known members, in
whatever order they stand, whatever other members there are, and however all of it is written. With a field that is
named twice nothing is loaded. -/
theorem load_object (extension : extensionOf path = "json") (held : host.read path = .ok (Utf8.encode text))
    (document : Document text (.object members)) :
    ((∃ config, load host path = .ok config) ↔ Acceptable members) ∧
    (∀ config, load host path = .ok config →
      (∀ field value, (some field.name, value) ∈ members →
        Setting.ofValue? field value = some (config.settingAt field)) ∧
      (∀ field : Field, (∀ value, (some field.name, value) ∉ members) →
        config.settingAt field = ({} : Config).settingAt field) ∧
      ∀ (other : Host) path' text' members', extensionOf path' = "json" →
        other.read path' = .ok (Utf8.encode text') → Document text' (.object members') →
        (∀ member ∈ members', member.1.isSome) → (knownOf members').Perm (knownOf members) →
        load other path' = .ok config) ∧
    ∀ (field : Field) before value between value' behind,
      members = before ++ (some field.name, value) :: between ++ (some field.name, value') :: behind →
      ∃ detail, load host path = .error (.unparsable path detail) := by
  -- Whatever is loaded, its members were acceptable.
  have accepted (config : Config) (loaded : load host path = .ok config) : Acceptable members := by
    refine Classical.byContradiction fun unacceptable => ?_
    obtain ⟨detail, refused⟩ := exists_load_error unacceptable extension held document
    cases loaded.symm.trans refused
  refine ⟨⟨fun ⟨config, loaded⟩ => accepted config loaded, fun acceptable => ?_⟩, fun config loaded => ?_, ?_⟩
  · exact ⟨_, acceptable.load_eq extension held document⟩
  · have acceptable := accepted config loaded
    have once := acceptable.nodup_settingsOf
    obtain rfl : ofSettings (settingsOf members) = config :=
      Except.ok.inj ((acceptable.load_eq extension held document).symm.trans loaded)
    refine ⟨fun field value member => ?given, fun field absent => ?absent, ?again⟩
    case given =>
      -- No other setting is about the same field, so the one that the member gives stays.
      have known := mem_knownOf.mpr member
      obtain ⟨setting, gives⟩ := Option.isSome_iff_exists.mp (acceptable.given _ known)
      have about : setting.field = field := Setting.field_of_ofValue? gives
      have stated : setting ∈ settingsOf members := List.mem_filterMap.mpr ⟨_, known, gives⟩
      rw [gives, ofSettings, ← about, settingAt_foldl_of_mem once stated]
    case absent =>
      -- A setting of the field would come from a member with its name.
      refine settingAt_foldl_of_notMem fun setting stated same => ?_
      obtain ⟨⟨other, value⟩, known, gives⟩ := List.mem_filterMap.mp stated
      rw [Setting.field_of_ofValue? gives] at same
      exact absent value (mem_knownOf.mp (same ▸ known))
    case again =>
      intro other path' text' members' extension' held' document' keys perm
      -- Only the known members count, and their order does not.
      rw [(acceptable.of_perm keys perm).load_eq extension' held' document']
      exact congrArg _ (ofSettings_perm once (perm.filterMap _))
  · rintro field before value between value' behind rfl
    refine exists_load_error (fun acceptable => ?_) extension held document
    -- The field would be known twice.
    have once := acceptable.once
    simp [knownOf, Field.ofName?_eq_some.mpr rfl, List.nodup_append] at once

/-- An object that names a symbol, and gives a list to a key that is not known. -/
def plainObject : List Char :=
  '\x7b' :: '"' :: ("symbol".toList ++ '"' :: ':' :: '"' :: ("a".toList ++ '"' :: ',' :: '"' :: ("x".toList ++
    '"' :: ':' :: '[' :: ']' :: ['\x7d'])))

/-- An object that names the same symbol by its number, behind another key and with blanks. -/
def spacedObject : List Char :=
  ' ' :: '\x7b' :: '"' :: ("y".toList ++ '"' :: ':' :: ("null".toList ++ ' ' :: ',' :: '\n' :: '"' ::
    ("symbol".toList ++ '"' :: ':' :: '"' :: '\\' :: 'u' :: '0' :: '0' :: '6' :: '1' :: '"' :: ['\x7d'])))

/-- A text without quotes, backslashes and control characters is quoted as it is. -/
theorem quotesText_of_all {text : String}
    (plain : text.toList.all fun char => char ≠ '"' && char ≠ '\\' && 0x20 ≤ char.toNat) (rest : List Char) :
    QuotesText (some text) (text.toList ++ '"' :: rest) rest := by
  refine Json.Quotes.of_plain (fun char member => ?_) rest
  have kinds := List.all_eq_true.mp plain char member
  simp only [Bool.and_eq_true, decide_eq_true_eq] at kinds
  exact ⟨kinds.1.1, kinds.1.2, kinds.2⟩

/-- The first of them is an object. -/
theorem stands_plainObject :
    Stands (.element (.object [(some "symbol", .text (some "a")), (some "x", .list [])])) plainObject [] := by
  have key := @quotesText_of_all "symbol" (by decide)
  have symbol := @quotesText_of_all "a" (by decide)
  have other := @quotesText_of_all "x" (by decide)
  unfold plainObject
  exact .element (.refl _) (.object (.members
    (.member (.refl _) (key _) (.refl _) (.element (.refl _) (.text (symbol _)) (.refl _)))
    (.lastMember (.member (.refl _) (other _) (.refl _) (.element (.refl _) (.emptyList (.refl _)) (.refl _))))))
    (.refl _)

/-- And so is the second. -/
theorem stands_spacedObject :
    Stands (.element (.object [(some "y", .null), (some "symbol", .text (some "a"))])) spacedObject [] := by
  have key := @quotesText_of_all "symbol" (by decide)
  have other := @quotesText_of_all "y" (by decide)
  -- The letter of the symbol is spelled by its number.
  have symbol (rest : List Char) : QuotesText (some "a") ('\\' :: 'u' :: '0' :: '0' :: '6' :: '1' :: '"' :: rest) rest :=
    .unit ⟨_, _, _, _, 0, 0, 6, 1, rfl, by decide, by decide, by decide, by decide, rfl⟩ (by decide) (.done rest)
  unfold spacedObject
  exact .element (.cons (by decide) (.refl _)) (.object (.members
    (.member (.refl _) (other _) (.refl _) (.element (.refl _) (.null _) (.cons (by decide) (.refl _))))
    (.lastMember (.member (.cons (by decide) (.refl _)) (key _) (.refl _)
      (.element (.refl _) (.text (symbol _)) (.refl _)))))) (.refl _)

/-- A host with a file for each of them. -/
def objectsHost : Host :=
  ⟨⟨[([Utf8.encode "c.json"], .file (Utf8.encode (.ofList plainObject)) false),
    ([Utf8.encode "d.json"], .file (Utf8.encode (.ofList spacedObject)) false)]⟩, [], [], []⟩

/-- From both files the same is loaded, with the default of another field. -/
theorem load_object_either : ∃ config, load objectsHost (.ofText "c.json") = .ok config ∧
    load objectsHost (.ofText "d.json") = .ok config ∧ config.symbol = "a" ∧ config.guard = ({} : Config).guard := by
  -- The other key is no field's name, so that one member is known.
  have known : knownOf [(some "symbol", Value.text (some "a")), (some "x", .list [])] =
      [(.symbol, .text (some "a"))] := rfl
  have acceptable : Acceptable [(some "symbol", .text (some "a")), (some "x", .list [])] := by
    refine ⟨by simp, by simp [known], ?_⟩
    rw [known]
    exact List.forall_mem_singleton.mpr rfl
  have held : objectsHost.read (.ofText "c.json") = .ok (Utf8.encode (.ofList plainObject)) := rfl
  have held' : objectsHost.read (.ofText "d.json") = .ok (Utf8.encode (.ofList spacedObject)) := rfl
  obtain ⟨accepts, means, -⟩ := load_object (by decide) held (Json.document_ofList stands_plainObject)
  obtain ⟨config, loaded⟩ := accepts.mpr acceptable
  obtain ⟨given, absent, again⟩ := means config loaded
  have symbol := given .symbol (.text (some "a")) List.mem_cons_self
  have guard := absent .guard fun value member => by simp [Field.name] at member
  have again' := again objectsHost (.ofText "d.json") _ _ (by decide) held' (Json.document_ofList stands_spacedObject)
    (by simp) (List.Perm.of_eq rfl)
  exact ⟨config, loaded, again', (Setting.symbol.inj (Option.some.inj symbol)).symm, Setting.guard.inj guard⟩

end Loading

end Meaning

end Config

end ImageHeader
