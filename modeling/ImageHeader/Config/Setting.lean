import ImageHeader.Config

/-! Settings: the single values that a configuration file gives, by the names of their fields. -/

namespace ImageHeader

namespace Config

/-- A field of a configuration. -/
inductive Field where
  | output
  | intermediate
  | guard
  | included
  | elementType
  | symbol
  | converter
  | xxdPath
  | closing
  deriving DecidableEq, Repr

/-- The fields in the order in which a list gives them. -/
def Field.all : List Field :=
  [.output, .intermediate, .guard, .included, .elementType, .symbol, .converter, .xxdPath, .closing]

/-- The name of a field in a file. -/
def Field.name : Field → String
  | .output => "output"
  | .intermediate => "intermediate"
  | .guard => "guard"
  | .included => "include"
  | .elementType => "element_type"
  | .symbol => "symbol"
  | .converter => "converter"
  | .xxdPath => "xxd_path"
  | .closing => "closing"

/-- The field with a name. -/
def Field.ofName? (name : String) : Option Field :=
  Field.all.find? fun field => field.name = name

/-- A field with a value. -/
inductive Setting where
  | output (path : Path)
  | intermediate (path : Path)
  | guard (text : String)
  | included (text : String)
  | elementType (text : String)
  | symbol (text : String)
  | converter (name : String)
  | xxdPath (path : Option Path)
  | closing (policy : ClosingPolicy)
  deriving DecidableEq, Repr

/-- The field that a setting is about. -/
def Setting.field : Setting → Field
  | .output _ => .output
  | .intermediate _ => .intermediate
  | .guard _ => .guard
  | .included _ => .included
  | .elementType _ => .elementType
  | .symbol _ => .symbol
  | .converter _ => .converter
  | .xxdPath _ => .xxdPath
  | .closing _ => .closing

/-- The setting of a field whose value is given as a text; `none` for a closing policy of another name. -/
def Setting.ofText? (field : Field) (text : String) : Option Setting :=
  match field with
  | .output => some (.output (.ofText text))
  | .intermediate => some (.intermediate (.ofText text))
  | .guard => some (.guard text)
  | .included => some (.included text)
  | .elementType => some (.elementType text)
  | .symbol => some (.symbol text)
  | .converter => some (.converter text)
  | .xxdPath => some (.xxdPath (some (.ofText text)))
  -- The only field whose texts do not all have a meaning.
  | .closing => (ClosingPolicy.ofName? text).map .closing

/-- The configuration with one field replaced. -/
def apply (config : Config) : Setting → Config
  | .output path => { config with output := path }
  | .intermediate path => { config with intermediate := path }
  | .guard text => { config with guard := text }
  | .included text => { config with included := text }
  | .elementType text => { config with elementType := text }
  | .symbol text => { config with symbol := text }
  | .converter name => { config with converter := name }
  | .xxdPath path => { config with xxdPath := path }
  | .closing policy => { config with closing := policy }

/-- The configuration of some settings; what they leave out has its default. -/
def ofSettings (settings : List Setting) : Config :=
  -- Fields do not repeat in what a reader gives, so the order of the settings decides nothing.
  settings.foldl apply {}

end Config

end ImageHeader
