import ImageHeader.Proofs.Command.Obstacle
import ImageHeader.Proofs.Config.RoundTrip
import ImageHeader.Proofs.Config.Stated
import ImageHeader.Proofs.Config.Validation

/-!
Layers: where each setting of a resolved configuration comes from.

An option lies over what the file states, and that over the default. What is laid over has no influence, and only the
configuration that all layers make together is checked.
-/

namespace ImageHeader

open Config (Field Flaw Setting States Unloadable)

namespace Options

variable {options : Options} {host other : Host} {base base' config : Config} {field : Field} {error : CommandError}

/-- The setting of a field that the options give; the fields of the source text have no option. -/
def given? (options : Options) : Field → Option Setting
  | .output => options.output.map .output
  | .intermediate => options.intermediate.map .intermediate
  | .converter => options.converter.map .converter
  | .xxdPath => options.xxd.map fun program => .xxdPath (some program)
  | .closing => if options.ensureClosed then some (.closing .ensure) else none
  | .guard | .included | .elementType | .symbol => none

/-- What the configuration file states, if there is one. -/
def Stated (options : Options) (host : Host) (settings : List Setting) : Prop :=
  match options.config with
  | some path => States host path settings
  | none => settings = []

/-- A field has the setting that the options give, or else its own. -/
theorem settingAt_override (options : Options) (config : Config) (field : Field) :
    (options.override config).settingAt field = (options.given? field).getD (config.settingAt field) := by
  obtain ⟨output, intermediate, _, converter, xxd, _, ensureClosed, _⟩ := options
  -- A field with an option takes what is given; the others have none.
  cases field with
  | output => cases output <;> rfl
  | intermediate => cases intermediate <;> rfl
  | converter => cases converter <;> rfl
  | xxdPath => cases xxd <;> rfl
  | closing => cases ensureClosed <;> rfl
  | guard | included | elementType | symbol => rfl

/-- Options hide all that they are laid over. -/
theorem override_congr
    (same : ∀ field, options.given? field = none → base.settingAt field = base'.settingAt field) :
    options.override base = options.override base' := by
  -- A field that is given is the same in both, and any other one is so by assumption.
  refine Config.eq_of_settingAt fun field => ?_
  rw [settingAt_override, settingAt_override]
  cases given : options.given? field with
  | none => exact same field given
  | some setting => rfl

/-- The options are laid over the configuration of what the file states. -/
theorem base_iff : options.Base host base ↔
    ∃ settings, options.Stated host settings ∧ base = Config.ofSettings settings := by
  -- Without a file nothing is stated, and the base is made of the defaults.
  unfold Base Stated
  cases options.config with
  | none => simp [Config.ofSettings]
  | some path => exact Config.load_eq_ok

/-- No field is stated twice. -/
theorem Stated.once {settings : List Setting} (stated : options.Stated host settings) : Config.Once settings := by
  unfold Stated at stated
  split at stated
  · exact stated.once
  · subst stated
    exact List.nodup_nil

/-- Either there is a configuration to lay the options over, or a file that cannot be loaded. -/
theorem base_or_unloadable (options : Options) (host : Host) :
    (∃ base, options.Base host base) ∨
      ∃ path cause, options.config = some path ∧ Unloadable host path cause ∧
        options.resolveConfig host = .error (.loading path cause) := by
  unfold Base resolveConfig
  -- Only a file can fail, and with it the options.
  cases given : options.config with
  | none => exact .inl ⟨{}, rfl⟩
  | some path =>
    cases loads : Config.load host path with
    | ok base => exact .inl ⟨base, loads⟩
    | error cause =>
      refine .inr ⟨path, cause, rfl, Config.load_eq_error.mp loads, ?_⟩
      simp [loads, Except.mapError]

/-- A configuration that is resolved is a base under the options, without a flaw. -/
theorem base_of_resolveConfig (resolved : options.resolveConfig host = .ok config) :
    ∃ base, options.Base host base ∧ config = options.override base ∧ config.flaw? = none := by
  -- What was resolved had a base, and the check found no flaw above it.
  rcases base_or_unloadable options host with ⟨base, had⟩ | ⟨_, _, _, _, refused⟩
  · rw [resolveConfig_of_base had] at resolved
    split at resolved
    · cases resolved
    · rename_i sound
      cases resolved
      exact ⟨base, had, rfl, sound⟩
  · cases resolved.symm.trans refused

/-- Options are not resolved exactly if their file cannot be loaded, or if the configuration under them violates a
condition, of which the first one is told. -/
theorem resolveConfig_eq_error : options.resolveConfig host = .error error ↔
    (∃ path cause, options.config = some path ∧ Unloadable host path cause ∧ error = .loading path cause) ∨
      ∃ base flaw, options.Base host base ∧
        ((options.override base).Violates flaw ∧
          ∀ other, (options.override base).Violates other → flaw.rank ≤ other.rank) ∧
        error = .settings (.invalid flaw) := by
  constructor
  · -- Loading comes first, and then the check of all layers together.
    intro refused
    rcases base_or_unloadable options host with ⟨base, had⟩ | ⟨path, cause, given, cannot, failed⟩
    · rw [resolveConfig_of_base had] at refused
      split at refused
      · rename_i flaw found
        cases refused
        exact .inr ⟨base, flaw, had, Config.flaw?_eq_some.mp found, rfl⟩
      · cases refused
    · cases failed.symm.trans refused
      exact .inl ⟨path, cause, given, cannot, rfl⟩
  · rintro (⟨path, cause, given, cannot, rfl⟩ | ⟨base, flaw, had, first, rfl⟩)
    · -- A file that cannot be loaded is told in any case.
      have failed := Config.load_eq_error.mpr cannot
      simp [resolveConfig, given, failed, Except.mapError]
    · rw [resolveConfig_of_base had, Config.flaw?_eq_some.mpr first]

/-- The external converter starts the first program that is named: by the options, the file or the environment. -/
theorem dumperFor_layers (options : Options) (base : Config) (host : Host)
    (external : (options.override base).converter = "xxd") :
    dumperFor host (options.override base) = .ok (External.dumper
      (((options.xxd.or base.xxdPath).or ((host.environmentValue? "XXD_BIN").map Path.mk)).getD (.ofText "xxd"))) := by
  have other : (options.override base).converter ≠ "builtin" := by
    rw [external]
    decide
  rw [dumperFor_eq, if_neg other, if_pos external]
  -- The environment is asked only if neither the options nor the file name a program.
  have named : (options.override base).xxdPath = options.xxd.or base.xxdPath := rfl
  rw [named, External.programOf]
  cases options.xxd.or base.xxdPath with
  | some program => rfl
  | none => cases host.environmentValue? "XXD_BIN" <;> rfl

/-- The array is closed in any case exactly if the options or the file ask for it. -/
theorem closing_eq_ensure {settings : List Setting} (once : Config.Once settings) :
    (options.override (Config.ofSettings settings)).closing = .ensure ↔
      options.ensureClosed = true ∨ Setting.closing .ensure ∈ settings := by
  -- Without the option it is the file that counts, and the default is not to close.
  have stated : (Config.ofSettings settings).closing = .ensure ↔ Setting.closing .ensure ∈ settings := by
    have value := Config.settingAt_ofSettings once .closing
    constructor
    · intro ensured
      rw [Config.settingAt, ensured] at value
      cases found : settings.find? fun setting => setting.field = .closing with
      | none =>
        rw [found] at value
        cases value
      | some setting =>
        rw [found, Option.getD_some] at value
        exact value ▸ List.mem_of_find?_eq_some found
    · intro member
      exact Setting.closing.inj (Config.settingAt_foldl_of_mem once member)
  rw [← stated]
  unfold override
  cases options.ensureClosed <;> simp

/-- A host with a file in which the header is the dump, one with another header, and a program for the converter. -/
def layersHost : Host :=
  ⟨⟨[([Utf8.encode "a.json"], .file (Utf8.encode "\x7b\"output\":\"temp.h\",\"symbol\":\"s\"\x7d") false),
    ([Utf8.encode "b.json"], .file (Utf8.encode "\x7b\"output\":\"b.h\",\"symbol\":\"s\"\x7d") false)]⟩, [],
    [("XXD_BIN", Utf8.encode "/x")], []⟩

/-- Options that name the first file and give another header. -/
def layersOptions : Options := { output := some (.ofText "o.h"), config := some (.ofText "a.json"), ensureClosed := true }

end Options

end ImageHeader
