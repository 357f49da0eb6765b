import ImageHeader.Config.Load
import ImageHeader.Proofs.Text.Utf8

/-! Loading: what a configuration file is loaded as, and the reasons for which it cannot be loaded. -/

namespace ImageHeader

namespace Config

variable {host : Host} {path : Path} {text : String} {error : ConfigError}

/-- A file with the extension `json` is loaded if its text is parsed. -/
theorem load_json (extension : extensionOf path = "json") (held : host.read path = .ok (Utf8.encode text)) :
    load host path = ((ofJson text).mapError Json.Fault.message).mapError (.unparsable path) := by
  -- The bytes of a text are decoded to the text.
  have read : host.readText path = .ok text := by simp only [Host.readText, held, Utf8.decode?_encode]
  rw [load, extension]
  simp only [Format.ofExtension?, if_true, read, parse]

/-- Why a configuration file cannot be loaded. -/
inductive Unloadable (host : Host) (path : Path) : ConfigError → Prop
  /-- Its extension belongs to no format. -/
  | foreign (none : Format.ofExtension? (extensionOf path) = none) :
      Unloadable host path (.unsupportedFormat (extensionOf path))
  /-- It cannot be read as a text. -/
  | lost (format : Format) (cause : IoError) (known : Format.ofExtension? (extensionOf path) = some format)
      (reading : host.readText path = .error cause) : Unloadable host path (.unreadable path cause)
  /-- Its text cannot be parsed. -/
  | malformed (format : Format) (text detail : String)
      (known : Format.ofExtension? (extensionOf path) = some format)
      (reading : host.readText path = .ok text) (parsing : parse format text = .error detail) :
      Unloadable host path (.unparsable path detail)

/-- Loading fails exactly for one of these reasons. -/
theorem load_eq_error : load host path = .error error ↔ Unloadable host path error := by
  constructor
  · intro failed
    -- The three steps of loading fail for one reason each.
    unfold load at failed
    split at failed
    · rename_i none
      cases failed
      exact .foreign none
    · rename_i format known
      split at failed
      · rename_i cause reading
        cases failed
        exact .lost format cause known reading
      · rename_i text reading
        cases parsing : parse format text with
        | error detail =>
          rw [parsing] at failed
          cases failed
          exact .malformed format text detail known reading parsing
        | ok config =>
          rw [parsing] at failed
          cases failed
  · intro cannot
    -- Each reason says what the steps before it gave.
    cases cannot with
    | foreign none => rw [load, none]
    | lost format cause known reading => rw [load, known, reading]
    | malformed format text detail known reading parsing =>
      simp only [load, known, reading, parsing]
      rfl

end Config

end ImageHeader
