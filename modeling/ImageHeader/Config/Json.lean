import ImageHeader.Config.Setting
import ImageHeader.Json.Value

/-! Configurations as JSON: an object by field names, or a list in the order of the fields. -/

namespace ImageHeader.Config

open Json (Fault Reading skipBlank skipValue readText readWord wrongTypeAt)

/-- Reads a text where one is wanted. -/
def readWanted (wanted : String) (chars : List Char) : Reading String :=
  match skipBlank chars with
  | [] => .error .endInValue
  | '"' :: rest => readText rest
  | found => .error (wrongTypeAt wanted found)

/-- The fault of a closing policy with an unknown name. -/
def unknownPolicy (name : String) : Fault :=
  .unknownVariant name [ClosingPolicy.verbatim.name, ClosingPolicy.ensure.name]

/-- Reads the name of a closing policy after its opening quote. -/
def readPolicyName (chars : List Char) : Reading ClosingPolicy :=
  match readText chars with
  | .error fault => .error fault
  | .ok (name, rest) =>
    match ClosingPolicy.ofName? name with
    | some policy => .ok (policy, rest)
    | none => .error (unknownPolicy name)

/-- Passes over the colon after a key. -/
def skipColon (chars : List Char) : Except Fault (List Char) :=
  match skipBlank chars with
  | ':' :: rest => .ok rest
  | [] => .error .endInObject
  | _ => .error .colonExpected

/-- Passes over a null where nothing else is wanted. -/
def skipNull (chars : List Char) : Except Fault (List Char) :=
  match skipBlank chars with
  | [] => .error .endInValue
  | 'n' :: rest => readWord "ull".toList rest
  | found => .error (wrongTypeAt "unit" found)

/-- Reads the inside of an object that names a closing policy and gives it a null; the name is a value that must
come. -/
def readPolicyObject (chars : List Char) : Reading ClosingPolicy :=
  match skipBlank chars with
  | [] => .error .endInValue
  -- A variant without content may be written as the only member of an object, so an empty one names none.
  | '\x7d' :: _ => .error .valueExpected
  | '"' :: rest =>
    match readPolicyName rest with
    | .error fault => .error fault
    | .ok (policy, rest) =>
      match skipColon rest with
      | .error fault => .error fault
      | .ok rest =>
        match skipNull rest with
        | .error fault => .error fault
        | .ok rest =>
          match skipBlank rest with
          | '\x7d' :: rest => .ok (policy, rest)
          | [] => .error .endInObject
          -- A second member is no longer part of the value.
          | _ => .error .valueExpected
  | _ => .error .keyNotText

/-- Reads a closing policy. -/
def readPolicy (chars : List Char) : Reading ClosingPolicy :=
  match skipBlank chars with
  | [] => .error .endInValue
  | '"' :: rest => readPolicyName rest
  | '\x7b' :: rest => readPolicyObject rest
  -- No type is told of here: a variant is neither a text nor an object as far as the reader is concerned.
  | _ => .error .valueExpected

/-- Reads a path, or a null for none. -/
def readOptionalPath (chars : List Char) : Reading (Option Path) :=
  match skipBlank chars with
  -- The letter alone decides: what begins like a null and is none is a misspelled word, not a path of a wrong type.
  | 'n' :: rest => (readWord "ull".toList rest).map fun rest => (none, rest)
  | found => (readWanted "path string" found).map fun (text, rest) => (some (.ofText text), rest)

/-- Reads the value of a field. -/
def readSetting (field : Field) (chars : List Char) : Reading Setting :=
  match field with
  | .output => (readWanted "path string" chars).map fun (text, rest) => (.output (.ofText text), rest)
  | .intermediate =>
    (readWanted "path string" chars).map fun (text, rest) => (.intermediate (.ofText text), rest)
  | .guard => (readWanted "a string" chars).map fun (text, rest) => (.guard text, rest)
  | .included => (readWanted "a string" chars).map fun (text, rest) => (.included text, rest)
  | .elementType => (readWanted "a string" chars).map fun (text, rest) => (.elementType text, rest)
  | .symbol => (readWanted "a string" chars).map fun (text, rest) => (.symbol text, rest)
  | .converter => (readWanted "a string" chars).map fun (text, rest) => (.converter text, rest)
  | .xxdPath => (readOptionalPath chars).map fun (path, rest) => (.xxdPath path, rest)
  | .closing => (readPolicy chars).map fun (policy, rest) => (.closing policy, rest)

/-- Reads a member after its key: a known field's setting joins the others, any other value is passed over. -/
def readMember (settings : List Setting) (key : String) (chars : List Char) :
    Reading (List Setting) :=
  match Field.ofName? key with
  | some field =>
    -- Repetition is found at the key, before its colon and whatever its value.
    if settings.any fun setting => setting.field = field then .error (.repeatedField key)
    else
      match skipColon chars with
      | .error fault => .error fault
      | .ok rest =>
        (readSetting field rest).map fun (setting, rest) => (settings ++ [setting], rest)
  -- Members that no field is named by are read for their form only.
  | none =>
    match skipColon chars with
    | .error fault => .error fault
    | .ok rest => (skipValue rest).map fun rest => (settings, rest)

/-- Reads a key after its opening quote, and its member. -/
def readKeyed (settings : List Setting) (chars : List Char) : Reading (List Setting) :=
  match readText chars with
  | .error fault => .error fault
  | .ok (key, rest) => readMember settings key rest

/-- Reads what follows a member of an object; `fuel` bounds the number of members. -/
def readMembers : Nat → List Setting → List Char → Reading (List Setting)
  -- Never reached from `readObject`, since each member takes characters.
  | 0, _, _ => .error .endInObject
  | fuel + 1, settings, chars =>
    match skipBlank chars with
    | [] => .error .endInObject
    | '\x7d' :: rest => .ok (settings, rest)
    | ',' :: rest =>
      match skipBlank rest with
      | [] => .error .endInValue
      | '"' :: rest =>
        match readKeyed settings rest with
        | .error fault => .error fault
        | .ok (settings, rest) => readMembers fuel settings rest
      -- The end right after a comma is told apart from any other character that opens no key.
      | '\x7d' :: _ => .error .trailingComma
      | _ => .error .keyNotText
    | _ => .error .objectEndExpected

/-- Reads the inside of an object. -/
def readObject (chars : List Char) : Reading (List Setting) :=
  match skipBlank chars with
  | [] => .error .endInObject
  | '\x7d' :: rest => .ok ([], rest)
  | '"' :: rest =>
    match readKeyed [] rest with
    | .error fault => .error fault
    -- A member takes a character at least, so what is left is fuel enough.
    | .ok (settings, rest) => readMembers (rest.length + 1) settings rest
  | _ => .error .keyNotText

/-- Ends a list after all its fields. -/
def endList (chars : List Char) : Except Fault (List Char) :=
  match skipBlank chars with
  | [] => .error .endInList
  | ']' :: rest => .ok rest
  | ',' :: rest =>
    match skipBlank rest with
    -- All the fields were read, so a comma announces either nothing or an item too many.
    | ']' :: _ => .error .trailingComma
    | _ => .error .trailingCharacters
  | _ => .error .trailingCharacters

/-- Reads the items of a list for the fields in order; a list may end early. -/
def readItems (first : Bool) (settings : List Setting) :
    List Field → List Char → Reading (List Setting)
  -- A list must not go on after the last field.
  | [], chars => (endList chars).map fun rest => (settings, rest)
  | field :: fields, chars =>
    let item (chars : List Char) : Reading (List Setting) :=
      match readSetting field chars with
      | .error fault => .error fault
      | .ok (setting, rest) => readItems false (settings ++ [setting]) fields rest
    match skipBlank chars with
    | [] => .error .endInList
    -- Fields without an item keep their defaults.
    | ']' :: rest => .ok (settings, rest)
    | found =>
      -- Only the first item stands without a comma before it.
      if first then item found
      else
        match found with
        | ',' :: rest =>
          match skipBlank rest with
          | [] => .error .endInValue
          | ']' :: _ => .error .trailingComma
          | next => item next
        | _ => .error .listEndExpected

/-- Reads an object or a list of settings. -/
def readSettings (chars : List Char) : Reading (List Setting) :=
  match skipBlank chars with
  | [] => .error .endInValue
  | '[' :: rest => readItems true [] Field.all rest
  | '\x7b' :: rest => readObject rest
  | found => .error (wrongTypeAt "struct HeaderConfig" found)

/-- The settings of a JSON text. -/
def settingsOfJson (text : String) : Except Fault (List Setting) :=
  match readSettings text.toList with
  | .error fault => .error fault
  | .ok (settings, rest) =>
    -- One value is the whole text.
    if skipBlank rest = [] then .ok settings else .error .trailingCharacters

/-- The configuration of a JSON text. -/
def ofJson (text : String) : Except Fault Config :=
  (settingsOfJson text).map ofSettings

/-- A member of an object, written without blanks. -/
def writeMember (name value : String) : List Char :=
  Json.writeText name ++ ':' :: Json.writeText value

/-- The configuration as a JSON object, unless one of its paths is no text. -/
def toJson? (config : Config) : Option String := do
  let output ← config.output.text?
  let intermediate ← config.intermediate.text?
  -- A path that is not given is left out rather than written as a null.
  let program ←
    match config.xxdPath with
    | none => some []
    | some path => (path.text?).map fun text => [(Field.xxdPath, text)]
  -- The members stand in the order of the fields, which is also the order a list would give them in.
  let members :=
    [(Field.output, output), (.intermediate, intermediate), (.guard, config.guard),
      (.included, config.included), (.elementType, config.elementType), (.symbol, config.symbol),
      (.converter, config.converter)] ++ program ++ [(.closing, config.closing.name)]
  let written := members.map fun (field, value) => writeMember field.name value
  return String.ofList ('\x7b' :: [','].intercalate written ++ ['\x7d'])

end ImageHeader.Config
