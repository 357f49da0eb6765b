import ImageHeader.Proofs.Config.Loading
import ImageHeader.Proofs.FileTree.Clearing
import ImageHeader.Proofs.Json.Text

/-!
Round trips: a configuration that is written as JSON and loaded again.

Both directions go over the settings of the configuration, one after the other. What is written for a setting is read
as that setting, and the settings of a configuration make that configuration.
-/

namespace ImageHeader

open FileTree

/-- A path whose bytes are those of a text. -/
def Path.IsText (path : Path) : Prop := ∃ text, path = .ofText text

/-- The text of a path is the one with its bytes. -/
theorem Path.text?_eq_some {path : Path} {text : String} : path.text? = some text ↔ path = .ofText text := by
  obtain ⟨bytes⟩ := path
  -- Decoding finds a text exactly for the bytes that it is encoded to.
  rw [text?, Utf8.decode?_eq_some, ofText, Path.mk.injEq]

/-- A closing policy is known by its name. -/
theorem ClosingPolicy.ofName?_name (policy : ClosingPolicy) : ofName? policy.name = some policy := by
  cases policy <;> decide

/-- What was stored in a file that was opened for writing is read under the same path. -/
theorem Host.exists_read_of_create {host opened : Host} {path : Path} {place : Location} {content : List UInt8}
    {executable : Bool} (created : host.create path = .ok (opened, place))
    (file : opened.tree.lookup place = some (.file content executable)) (bytes : List UInt8) :
    ∃ after, opened.write place bytes = .ok after ∧ after.read path = .ok bytes := by
  -- What stands at the place after opening is what the opening put there, or what was left.
  unfold create at created
  split at created
  · cases created
  · rename_i made location creating
    cases created
    -- A device would have been left what it is.
    have regular : ∀ kind, host.tree.lookup place ≠ some (.special kind) := by
      intro kind device
      obtain ⟨_, _, _, _, ⟨free, _⟩ | ⟨_, _, standing, _⟩ | ⟨_, _, rfl⟩⟩ := create_eq_ok creating
      · exact nomatch free.symm.trans device
      · exact nomatch standing.symm.trans device
      · exact nomatch file.symm.trans device
    obtain ⟨shut, rfl⟩ := set_of_create creating regular
    refine ⟨_, by rw [write, write_file file], ?_⟩
    -- The file stands in nobody's way, so the path leads to it as before.
    have leads : (host.tree.set place (.file bytes executable)).leads? host.workingDirectory path = some place :=
      leads?_of_create creating shut
    have standing : (host.tree.set place (.file bytes executable)).lookup place = some (.file bytes executable) :=
      lookup_set_self shut.ne_root
    rw [read, set_set, FileTree.read, find_of_leads? leads standing]
    simp only [entryAt_of_lookup standing, Entry.content]

namespace Config

open Json (readText_written skipBlank writeChar writeText)

section Setting

variable {setting : Setting} {text : String}

/-- A setting that a text gives to its field. -/
def Setting.GivenBy (setting : Setting) (text : String) : Prop :=
  Setting.ofText? setting.field text = some setting

/-- A field is known by its name. -/
theorem Field.ofName?_name (field : Field) : ofName? field.name = some field := by
  cases field <;> decide

/-- A quote is not passed over as a blank. -/
theorem skipBlank_writeText (text : String) (rest : List Char) :
    skipBlank (writeText text ++ rest) = '"' :: (text.toList.flatMap writeChar ++ '"' :: rest) := by
  simp [writeText, skipBlank, Json.isBlank]

/-- What is written for a text is read where a text is wanted. -/
theorem readWanted_written (wanted text : String) (rest : List Char) :
    readWanted wanted (writeText text ++ rest) = .ok (text, rest) := by
  rw [readWanted, skipBlank_writeText]
  exact readText_written text rest

/-- What is written for a setting is read as that setting. -/
theorem readSetting_written (given : setting.GivenBy text) (rest : List Char) :
    readSetting setting.field (writeText text ++ rest) = .ok (setting, rest) := by
  cases setting with
  | closing policy =>
    -- The text is the name of the policy.
    obtain ⟨_, named, same⟩ := Option.map_eq_some_iff.mp given
    cases same
    have read : readPolicy (writeText text ++ rest) = .ok (policy, rest) := by
      rw [readPolicy, skipBlank_writeText]
      simp only [readPolicyName, readText_written, named]
    simp only [Setting.field, readSetting, read]
    rfl
  | xxdPath program =>
    cases given
    have read : readOptionalPath (writeText text ++ rest) = .ok (some (.ofText text), rest) := by
      -- It begins with a quote, and so it is no null.
      have quoted : readWanted "path string" ('"' :: (text.toList.flatMap writeChar ++ '"' :: rest)) =
          .ok (text, rest) := readText_written text rest
      rw [readOptionalPath, skipBlank_writeText]
      split
      · rename_i null
        cases null
      · rw [quoted]
        rfl
    simp only [Setting.field, readSetting, read]
    rfl
  -- All other settings are texts.
  | _ =>
    cases given
    simp only [Setting.field, readSetting, readWanted_written]
    rfl

/-- What is written for a member is read, behind its first quote, as its setting. -/
theorem readKeyed_written (before : List Setting) (given : setting.GivenBy text)
    (fresh : ∀ other ∈ before, other.field ≠ setting.field) (rest : List Char) :
    ∃ chars, writeMember setting.field.name text ++ rest = '"' :: chars ∧
      readKeyed before chars = .ok (before ++ [setting], rest) := by
  refine ⟨setting.field.name.toList.flatMap writeChar ++ '"' :: ':' :: (writeText text ++ rest), ?_, ?_⟩
  · simp [writeMember, writeText]
  · -- The field is new, and so the value behind the colon is read for it.
    have unseen : ¬(before.any fun other => other.field = setting.field) = true := by simpa using fresh
    have colon : skipColon (':' :: (writeText text ++ rest)) = .ok (writeText text ++ rest) := rfl
    rw [readKeyed, readText_written]
    simp only [readMember, Field.ofName?_name, if_neg unseen, colon, readSetting_written given]
    rfl

end Setting

section Object

/-- A setting with the text that gives it, as a member of an object. -/
def written (member : Setting × String) : List Char := writeMember member.1.field.name member.2

/-- Members behind another one are read one after the other. -/
theorem readMembers_written (before : List Setting) {members : List (Setting × String)}
    (given : ∀ member ∈ members, member.1.GivenBy member.2)
    (fresh : ((before ++ members.map Prod.fst).map Setting.field).Nodup)
    {fuel : Nat} (enough : members.length < fuel) (rest : List Char) :
    readMembers fuel before (members.flatMap (fun member => ',' :: written member) ++ '\x7d' :: rest) =
      .ok (before ++ members.map Prod.fst, rest) := by
  -- The induction is on the members; each of them joins the settings before the next.
  induction members generalizing before fuel with
  | nil =>
    cases fuel with
    | zero => cases enough
    | succ fuel => simp [readMembers, skipBlank, Json.isBlank]
  | cons member more ih =>
    cases fuel with
    | zero => cases enough
    | succ fuel =>
      obtain ⟨first, others⟩ := List.forall_mem_cons.mp given
      -- Its field is none of those before it.
      have unseen : ∀ other ∈ before, other.field ≠ member.1.field := by
        rw [List.map_append, List.nodup_append] at fresh
        exact fun other earlier => fresh.2.2 _ (List.mem_map_of_mem earlier) _ (by simp)
      obtain ⟨chars, quoted, read⟩ := readKeyed_written before first unseen
        (more.flatMap (fun member => ',' :: written member) ++ '\x7d' :: rest)
      have comma : skipBlank ((member :: more).flatMap (fun member => ',' :: written member) ++ '\x7d' :: rest) =
          ',' :: '"' :: chars := by
        rw [← quoted]
        simp [written, skipBlank, Json.isBlank]
      have behind := ih (before ++ [member.1]) others (by simpa using fresh) (Nat.lt_of_succ_lt_succ enough)
      have quote : skipBlank ('"' :: chars) = '"' :: chars := rfl
      rw [readMembers, comma]
      simp only [quote, read, behind]
      simp

/-- Members after one another, with commas between them. -/
theorem intercalate_cons (first : List Char) (others : List (List Char)) :
    [','].intercalate (first :: others) = first ++ others.flatMap (',' :: ·) := by
  -- The induction is on the members behind the first; each brings its own comma.
  induction others generalizing first with
  | nil => simp [List.intercalate]
  | cons next more ih => rw [List.intercalate_cons_cons, ih, List.flatMap_cons]; simp

/-- Members are not more than the characters that are written for them. -/
theorem length_le_flatMap_written (members : List (Setting × String)) :
    members.length ≤ (members.flatMap fun member => ',' :: written member).length := by
  induction members with
  | nil => exact Nat.zero_le _
  | cons member more ih =>
    rw [List.flatMap_cons, List.length_append, List.length_cons, List.length_cons]
    omega

/-- What is written for some members is read as their settings. -/
theorem readSettings_written {members : List (Setting × String)} (some_ : members ≠ [])
    (given : ∀ member ∈ members, member.1.GivenBy member.2)
    (distinct : ((members.map Prod.fst).map Setting.field).Nodup) :
    readSettings ('\x7b' :: [','].intercalate (members.map written) ++ ['\x7d']) = .ok (members.map Prod.fst, []) := by
  obtain ⟨member, more, rfl⟩ := List.exists_cons_of_ne_nil some_
  obtain ⟨first, others⟩ := List.forall_mem_cons.mp given
  -- The first member has no comma before it.
  obtain ⟨chars, quoted, read⟩ := readKeyed_written [] first (by simp)
    ((more.flatMap fun member => ',' :: written member) ++ ['\x7d'])
  have opened : [','].intercalate ((member :: more).map written) ++ ['\x7d'] = '"' :: chars := by
    rw [← quoted, List.map_cons, intercalate_cons]
    simp [written, List.flatMap_map]
  -- A member takes at least its comma, so there are characters enough to read them all.
  have enough : more.length < ((more.flatMap fun member => ',' :: written member) ++ ['\x7d']).length + 1 := by
    have fewer := length_le_flatMap_written more
    rw [List.length_append]
    omega
  have behind := readMembers_written [member.1] others (by simpa using distinct) enough []
  have bracket : skipBlank ('\x7b' :: '"' :: chars) = '\x7b' :: '"' :: chars := rfl
  have quote : skipBlank ('"' :: chars) = '"' :: chars := rfl
  rw [List.cons_append, opened, readSettings, bracket]
  simp only [readObject, quote, read, List.nil_append, behind]
  rfl

end Object

/-- The settings of a configuration in the order of its fields; a program that is not set is no setting. -/
def stated (config : Config) : List Setting :=
  [Setting.output config.output, .intermediate config.intermediate, .guard config.guard, .included config.included,
    .elementType config.elementType, .symbol config.symbol, .converter config.converter] ++
    (config.xxdPath.map fun path => Setting.xxdPath (some path)).toList ++ [Setting.closing config.closing]

/-- The settings of a configuration make it. -/
theorem ofSettings_stated (config : Config) : ofSettings config.stated = config := by
  obtain ⟨_, _, _, _, _, _, _, program, _⟩ := config
  cases program <;> rfl

/-- No field is set twice. -/
theorem nodup_stated (config : Config) : (config.stated.map Setting.field).Nodup := by
  obtain ⟨_, _, _, _, _, _, _, program, _⟩ := config
  cases program <;> simp [stated, Setting.field]

/-- A configuration whose paths are texts. -/
structure IsText (config : Config) : Prop where
  output : config.output.IsText
  intermediate : config.intermediate.IsText
  program : ∀ path ∈ config.xxdPath, path.IsText

variable {config : Config}

/-- A configuration whose paths are texts is written as an object of its settings. -/
theorem exists_toJson? (text : config.IsText) : ∃ members : List (Setting × String),
    config.toJson? = some (String.ofList ('\x7b' :: [','].intercalate (members.map written) ++ ['\x7d'])) ∧
      members.map Prod.fst = config.stated ∧ ∀ member ∈ members, member.1.GivenBy member.2 := by
  obtain ⟨_, _, guard, included, elementType, symbol, converter, program, closing⟩ := config
  obtain ⟨⟨output, rfl⟩, ⟨intermediate, rfl⟩, programs⟩ := text
  have encoded (text : String) : (Path.ofText text).text? = some text := Path.text?_eq_some.mpr rfl
  have policy : (Setting.closing closing).GivenBy closing.name := by
    simp only [Setting.GivenBy, Setting.field, Setting.ofText?, ClosingPolicy.ofName?_name, Option.map_some]
  -- The settings before the program are written in any case.
  let front : List (Setting × String) :=
    [(.output (.ofText output), output), (.intermediate (.ofText intermediate), intermediate), (.guard guard, guard),
      (.included included, included), (.elementType elementType, elementType), (.symbol symbol, symbol),
      (.converter converter, converter)]
  have given : ∀ member ∈ front, member.1.GivenBy member.2 := by
    simp [front, Setting.GivenBy, Setting.field, Setting.ofText?]
  -- A program is written only where one is set.
  cases program with
  | none =>
    refine ⟨front ++ [(.closing closing, closing.name)], ?_, rfl, ?_⟩
    · simp only [toJson?, encoded]
      rfl
    · exact List.forall_mem_append.mpr ⟨given, List.forall_mem_singleton.mpr policy⟩
  | some path =>
    obtain ⟨path, rfl⟩ := programs path rfl
    have program : (Setting.xxdPath (some (.ofText path))).GivenBy path := rfl
    refine ⟨front ++ [(.xxdPath (some (.ofText path)), path), (.closing closing, closing.name)], ?_, rfl, ?_⟩
    · simp only [toJson?, encoded]
      rfl
    · exact List.forall_mem_append.mpr ⟨given, by simpa using ⟨program, policy⟩⟩

/-- What is written for a configuration is parsed as that configuration. -/
theorem exists_ofJson_toJson? (text : config.IsText) :
    ∃ json, config.toJson? = some json ∧ ofJson json = .ok config := by
  obtain ⟨members, whole, same, given⟩ := exists_toJson? text
  refine ⟨_, whole, ?_⟩
  -- The object is not empty, since every configuration states some settings.
  have filled : members ≠ [] := by
    rintro rfl
    simp [stated] at same
  have read := readSettings_written filled given (same ▸ nodup_stated config)
  rw [ofJson, settingsOfJson, String.toList_ofList, read, same]
  simp only [skipBlank, List.dropWhile_nil, if_true]
  rw [Except.map, ofSettings_stated]

/-- A configuration whose paths are texts can be written as JSON, whatever its texts are. A file with the extension
`json` that holds what was written, or into which it is stored, is loaded as the same configuration. -/
theorem load_written (text : config.IsText) : ∃ json, config.toJson? = some json ∧
    ∀ (host : Host) (path : Path), extensionOf path = "json" →
      (host.read path = .ok (Utf8.encode json) → load host path = .ok config) ∧
      ∀ opened place content executable, host.create path = .ok (opened, place) →
        opened.tree.lookup place = some (.file content executable) →
        ∃ after, opened.write place (Utf8.encode json) = .ok after ∧ load after path = .ok config := by
  obtain ⟨json, whole, parsed⟩ := exists_ofJson_toJson? text
  -- Whoever holds the written text is loaded, however it came there.
  have load_of_read (host : Host) (path : Path) (extension : extensionOf path = "json")
      (held : host.read path = .ok (Utf8.encode json)) : load host path = .ok config := by
    rw [load_json extension held, parsed]
    rfl
  refine ⟨json, whole, fun host path extension => ⟨load_of_read host path extension, ?_⟩⟩
  intro opened place content executable created file
  obtain ⟨after, stored, held⟩ := Host.exists_read_of_create created file (Utf8.encode json)
  exact ⟨after, stored, load_of_read after path extension held⟩

/-- A configuration of texts that have to be escaped or take several bytes. -/
def unwieldy : Config where
  output := .ofText ""
  intermediate := .ofText "a \"b\"\\c/\n"
  guard := "\x00\x08\x1f\t\x7f"
  included := "é€😀"
  xxdPath := some (.ofText "\r")
  closing := .ensure

/-- Such a configuration is loaded from a new file as it was written. -/
theorem load_written_unwieldy :
    unwieldy.IsText ∧ ∃ json after, unwieldy.toJson? = some json ∧
      Host.create ⟨.empty, [], [], []⟩ (.ofText "c.json") =
        .ok (⟨.set .empty [Utf8.encode "c.json"] (.file [] false), [], [], []⟩, [Utf8.encode "c.json"]) ∧
      Host.write ⟨.set .empty [Utf8.encode "c.json"] (.file [] false), [], [], []⟩ [Utf8.encode "c.json"]
        (Utf8.encode json) = .ok after ∧
      load after (.ofText "c.json") = .ok unwieldy := by
  -- Every path of it was made of a text.
  have text : unwieldy.IsText := by
    refine ⟨⟨_, rfl⟩, ⟨_, rfl⟩, fun path program => ?_⟩
    cases program
    exact ⟨_, rfl⟩
  have created : Host.create ⟨.empty, [], [], []⟩ (.ofText "c.json") =
      .ok (⟨.set .empty [Utf8.encode "c.json"] (.file [] false), [], [], []⟩, [Utf8.encode "c.json"]) := by
    rfl
  obtain ⟨json, whole, loads⟩ := load_written text
  obtain ⟨after, stored, loaded⟩ := (loads _ (.ofText "c.json") (by decide)).2 _ _ [] false created (by decide)
  exact ⟨text, json, after, whole, created, stored, loaded⟩

end Config

end ImageHeader
