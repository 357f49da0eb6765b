import ImageHeader.Proofs.Config.Order

/-!
Stated settings: what a configuration file says, field by field.

Neither of the two formats lets a file state a field twice, so that a field has the one value that is stated for it, or
else its default.
-/

namespace ImageHeader

namespace Config

open Json (Reading)

variable {settings settings' : List Setting} {setting : Setting} {field : Field} {chars rest : List Char}
  {host : Host} {path : Path} {config : Config}

/-- A text in a format states settings. -/
def Format.States (format : Format) (text : String) (settings : List Setting) : Prop :=
  match format with
  | .json => settingsOfJson text = .ok settings
  | .yaml => settingsOfYaml? text = some settings

/-- A file states the settings of its text, in the format of its extension. -/
def States (host : Host) (path : Path) (settings : List Setting) : Prop :=
  ∃ format text, Format.ofExtension? (extensionOf path) = some format ∧ host.readText path = .ok text ∧
    format.States text settings

/-- No field has two of some settings. -/
def Once (settings : List Setting) : Prop := (settings.map Setting.field).Nodup

/-- What is mapped to a result comes from a result. -/
theorem exists_of_map_eq_ok {ε α β : Type} {result : Except ε α} {f : α → β} {found : β}
    (mapped : result.map f = .ok found) : ∃ before, result = .ok before ∧ f before = found := by
  cases result with
  | error fault => cases mapped
  | ok before => exact ⟨before, rfl, Except.ok.inj mapped⟩

/-- A setting of a field that has none so far joins the others. -/
theorem Once.concat (once : Once settings) (fresh : ∀ other ∈ settings, other.field ≠ setting.field) :
    Once (settings ++ [setting]) := by
  -- Only the last field is new, so it has to be compared with those before it.
  unfold Once at once ⊢
  rw [List.map_append, List.map_singleton, List.nodup_append]
  refine ⟨once, by simp, ?_⟩
  intro other member last single
  obtain ⟨before, stated, rfl⟩ := List.mem_map.mp member
  obtain rfl := List.mem_singleton.mp single
  exact fresh before stated

/-- The value of a field that is read is a setting of that field. -/
theorem field_of_readSetting (read : readSetting field chars = .ok (setting, rest)) : setting.field = field := by
  -- Every field has its own reader, each of which makes a setting of that field.
  cases field
  all_goals
    obtain ⟨before, _, same⟩ := exists_of_map_eq_ok read
    cases same
    rfl

/-- Reading a member keeps fields apart. -/
theorem Once.readMember {key : String} (once : Once settings)
    (read : readMember settings key chars = .ok (settings', rest)) : Once settings' := by
  unfold Config.readMember at read
  split at read
  · rename_i field _
    split at read
    · cases read
    · -- The field is one of which nothing has been read.
      rename_i fresh
      split at read
      · cases read
      · obtain ⟨⟨setting, behind⟩, found, same⟩ := exists_of_map_eq_ok read
        cases same
        refine once.concat fun other member => ?_
        rw [field_of_readSetting found]
        intro again
        exact fresh (List.any_eq_true.mpr ⟨other, member, decide_eq_true again⟩)
  · split at read
    · cases read
    · obtain ⟨behind, _, same⟩ := exists_of_map_eq_ok read
      cases same
      exact once

/-- Reading a key and its member keeps fields apart. -/
theorem Once.readKeyed (once : Once settings) (read : readKeyed settings chars = .ok (settings', rest)) :
    Once settings' := by
  -- The key itself adds no setting.
  unfold Config.readKeyed at read
  split at read
  · cases read
  · exact once.readMember read

/-- Reading members keeps fields apart. -/
theorem Once.readMembers {fuel : Nat} (once : Once settings)
    (read : readMembers fuel settings chars = .ok (settings', rest)) : Once settings' := by
  -- The induction is on the fuel: each member leaves one less for those behind it.
  induction fuel generalizing settings chars with
  | zero => cases read
  | succ fuel ih =>
    unfold Config.readMembers at read
    -- Only the end of the object and another member lead to settings.
    split at read
    · cases read
    · cases read
      exact once
    · split at read
      · cases read
      · split at read
        · cases read
        · rename_i keyed
          exact ih (once.readKeyed keyed) read
      · cases read
      · cases read
    · cases read

/-- The settings of an object are about different fields. -/
theorem once_of_readObject (read : readObject chars = .ok (settings, rest)) : Once settings := by
  -- No settings are apart, and the members keep them so.
  have none : Once [] := List.nodup_nil
  unfold readObject at read
  split at read
  · cases read
  · cases read
    exact none
  · split at read
    · cases read
    · rename_i keyed
      exact (none.readKeyed keyed).readMembers read
  · cases read

/-- The items of a list are settings of the fields in their order, and so about different ones. -/
theorem once_of_readItems {first : Bool} {fields : List Field}
    (apart : (settings.map Setting.field ++ fields).Nodup)
    (read : readItems first settings fields chars = .ok (settings', rest)) : Once settings' := by
  have once : Once settings := (List.nodup_append.mp apart).1
  -- The induction is on the fields to come, which stay apart from those that were read.
  induction fields generalizing first settings chars with
  | nil =>
    obtain ⟨behind, _, same⟩ := exists_of_map_eq_ok read
    cases same
    exact once
  | cons field fields ih =>
    -- An item moves its field from those to come to those that are read.
    have item {chars behind : List Char} {setting : Setting} (found : readSetting field chars = .ok (setting, behind))
        (read : readItems false (settings ++ [setting]) fields behind = .ok (settings', rest)) : Once settings' := by
      have moved : ((settings ++ [setting]).map Setting.field ++ fields).Nodup := by
        rw [List.map_append, List.map_singleton, field_of_readSetting found, List.append_assoc]
        exact apart
      exact ih moved read (List.nodup_append.mp moved).1
    unfold readItems at read
    dsimp only at read
    split at read
    · cases read
    · cases read
      exact once
    · split at read
      · split at read
        · cases read
        · rename_i found
          exact item found read
      · split at read
        · split at read
          · cases read
          · cases read
          · split at read
            · cases read
            · rename_i found
              exact item found read
        · cases read

/-- A JSON text states each field at most once. -/
theorem once_of_settingsOfJson {text : String} (stated : settingsOfJson text = .ok settings) : Once settings := by
  unfold settingsOfJson at stated
  split at stated
  · cases stated
  · rename_i found rest read
    split at stated
    · cases stated
      unfold readSettings at read
      -- A document is a list or an object.
      split at read
      · cases read
      · exact once_of_readItems (by decide) read
      · exact once_of_readObject read
      · cases read
    · cases stated

/-- The setting of a scalar is about the field that it is given to. -/
theorem field_of_settingOf? {scalar : Yaml.Scalar} (given : settingOf? field scalar = some setting) :
    setting.field = field := by
  -- Each way of reading a scalar makes a setting of the field that was asked for.
  unfold settingOf? at given
  split at given
  · obtain ⟨path, -, rfl⟩ := Option.map_eq_some_iff.mp given
    rfl
  · obtain ⟨policy, -, rfl⟩ := Option.map_eq_some_iff.mp given
    rfl
  · exact Setting.field_of_ofText? given

/-- Reading pairs keeps fields apart. -/
theorem Once.readPairs? {document : Yaml.Document} {fuel : Nat} {items : List Yaml.Item} (once : Once settings)
    (read : readPairs? document fuel settings items = some settings') : Once settings' := by
  -- As with members, but the value may also be no scalar, which refuses the text.
  induction fuel generalizing settings items with
  | zero => cases read
  | succ fuel ih =>
    unfold Config.readPairs? at read
    split at read
    · cases read
      exact once
    · cases read
      exact once
    · split at read
      · dsimp only at read
        split at read
        · exact ih once read
        · rename_i field _
          split at read
          · cases read
          · -- The field is one of which nothing has been read.
            rename_i fresh
            split at read
            · split at read
              · rename_i setting found
                refine ih (once.concat fun other member => ?_) read
                rw [field_of_settingOf? found]
                intro again
                exact fresh (List.any_eq_true.mpr ⟨other, member, decide_eq_true again⟩)
              · cases read
            · cases read
      · cases read

/-- A YAML text states each field at most once. -/
theorem once_of_settingsOfYaml? {text : String} (stated : settingsOfYaml? text = some settings) :
    Once settings := by
  have none : Once [] := List.nodup_nil
  -- Only a mapping states anything.
  obtain ⟨document, -, stated⟩ := Option.bind_eq_some_iff.mp stated
  split at stated
  · cases stated
    exact none
  · exact none.readPairs? stated
  · split at stated
    · cases stated
      exact none
    · cases stated
  · cases stated

/-- No file states a field twice. -/
theorem States.once (states : States host path settings) : Once settings := by
  obtain ⟨format, text, _, _, stated⟩ := states
  cases format with
  | json => exact once_of_settingsOfJson stated
  | yaml => exact once_of_settingsOfYaml? stated

/-- A file is loaded as the configuration of the settings that it states. -/
theorem load_eq_ok : load host path = .ok config ↔
    ∃ settings, States host path settings ∧ config = ofSettings settings := by
  constructor
  · intro loaded
    unfold load at loaded
    split at loaded
    · cases loaded
    · rename_i format known
      split at loaded
      · cases loaded
      · rename_i text read
        -- The two formats fail differently, but both go from a text to settings and then to the configuration.
        cases format with
        | json =>
          simp only [parse, ofJson] at loaded
          cases stated : settingsOfJson text with
          | error fault =>
            rw [stated] at loaded
            cases loaded
          | ok settings =>
            rw [stated] at loaded
            cases loaded
            exact ⟨settings, ⟨.json, text, known, read, stated⟩, rfl⟩
        | yaml =>
          simp only [parse, ofYaml?] at loaded
          cases stated : settingsOfYaml? text with
          | none =>
            rw [stated] at loaded
            cases loaded
          | some settings =>
            rw [stated] at loaded
            cases loaded
            exact ⟨settings, ⟨.yaml, text, known, read, stated⟩, rfl⟩
  · rintro ⟨settings, ⟨format, text, known, read, stated⟩, rfl⟩
    cases format with
    | json =>
      have parsed : settingsOfJson text = .ok settings := stated
      simp only [load, known, read, parse, ofJson, parsed]
      rfl
    | yaml =>
      have parsed : settingsOfYaml? text = some settings := stated
      simp only [load, known, read, parse, ofYaml?, parsed]
      rfl

/-- Where no field is stated twice, each has the value that is stated for it, or else its default. -/
theorem settingAt_ofSettings (once : Once settings) (field : Field) :
    (ofSettings settings).settingAt field =
      (settings.find? fun setting => setting.field = field).getD (({} : Config).settingAt field) := by
  -- A field without a setting is never touched; one with a setting is touched once.
  cases found : settings.find? fun setting => setting.field = field with
  | none =>
    have absent : ∀ setting ∈ settings, setting.field ≠ field := by
      simpa using List.find?_eq_none.mp found
    exact settingAt_foldl_of_notMem absent
  | some setting =>
    have about : setting.field = field := by simpa using List.find?_some found
    rw [← about]
    exact settingAt_foldl_of_mem once (List.mem_of_find?_eq_some found)

end Config

end ImageHeader
