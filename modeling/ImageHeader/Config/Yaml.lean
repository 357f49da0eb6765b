import ImageHeader.Config.Setting
import ImageHeader.Yaml.Document

/-! Configurations as YAML: a mapping by field names, where any scalar may stand for a text. -/

namespace ImageHeader.Config

open Yaml (Document Item Scalar)

/-- Whether a text is a spelling of null. -/
def spellsNull (text : List Char) : Bool :=
  ["null", "Null", "NULL", "~"].contains (String.ofList text)

/-- The full tag of a null. -/
def nullTag : List UInt8 := Utf8.encode "tag:yaml.org,2002:null"

/-- The path of a scalar, where null and nothing mean that there is none; a null must be spelled as one. -/
def optionalPathOf? (scalar : Scalar) : Option (Option Path) :=
  let given := some (some (Path.ofText (String.ofList scalar.text)))
  -- Quoting makes a text of anything, of a null as well.
  if scalar.style ≠ .plain then given
  else
    match scalar.tag with
    | some tag =>
      -- A tag that says null holds its scalar to it; any other tag makes a text of it.
      if tag = nullTag then (if spellsNull scalar.text then some none else none) else given
    | none => if scalar.text.isEmpty || spellsNull scalar.text then some none else given

/-- The name that the local tag of a scalar gives, if it has one that is text; a lone mark is a name by itself. -/
def localName? (scalar : Scalar) : Option String :=
  match scalar.tag with
  -- A local tag opens with an exclamation mark, which is no part of the name.
  | some (0x21 :: name) => Utf8.decode? (if name.isEmpty then [0x21] else name)
  | _ => none

/-- The closing policy of a scalar: what its tag names, with no content beside it, or else its text. -/
def policyOf? (scalar : Scalar) : Option ClosingPolicy :=
  match localName? scalar with
  | some name =>
    -- The name has been given by the tag, and a variant without content may only be followed by a null.
    if scalar.style = .plain ∧ (scalar.text.isEmpty ∨ spellsNull scalar.text) then
      ClosingPolicy.ofName? name
    else none
  | none => ClosingPolicy.ofName? (String.ofList scalar.text)

/-- The setting of a field whose value is a scalar. -/
def settingOf? (field : Field) (scalar : Scalar) : Option Setting :=
  match field with
  | .xxdPath => (optionalPathOf? scalar).map .xxdPath
  | .closing => (policyOf? scalar).map .closing
  -- Every other field is a text, whatever its scalar looks like: `1` and `true` are taken as they are spelled.
  | _ => Setting.ofText? field (String.ofList scalar.text)

/-- Reads the pairs of a mapping up to its end; a known field must be given once and be a scalar. -/
def readPairs? (document : Document) : Nat → List Setting → List Item → Option (List Setting)
  | 0, _, _ => none
  | fuel + 1, settings, items =>
    match items with
    -- The mapping ends with its bracket, or with the document.
    | [] | .close :: _ => some settings
    | _ =>
      match document.node? items with
      | some (.scalar key) =>
        -- A key is one node, and its value begins behind it.
        let value := Document.skipNode items
        match Field.ofName? (String.ofList key.text) with
        -- An unknown key has its whole value passed over, however deep.
        | none => readPairs? document fuel settings (Document.skipNode value)
        | some field =>
          -- A field that came before is a repetition, even with the same value.
          if settings.any fun setting => setting.field = field then none
          else
            match document.node? value with
            | some (.scalar scalar) =>
              match settingOf? field scalar with
              | some setting =>
                readPairs? document fuel (settings ++ [setting]) (Document.skipNode value)
              | none => none
            | _ => none
      | _ => none

/-- The settings of a YAML text; an empty document has none. -/
def settingsOfYaml? (text : String) : Option (List Setting) := do
  let document ← Document.ofText? text
  match document.items with
  -- Nothing at all, and a plain scalar of no characters, both stand for a configuration of defaults.
  | [] => return []
  | .mapping _ :: items => readPairs? document (items.length + 1) [] items
  | .scalar scalar :: _ => if scalar.text.isEmpty && scalar.style = .plain then return [] else none
  | _ => none

/-- The configuration of a YAML text. -/
def ofYaml? (text : String) : Option Config :=
  (settingsOfYaml? text).map ofSettings

end ImageHeader.Config
