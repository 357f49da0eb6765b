import ImageHeader.Config
import ImageHeader.Dump.External
import ImageHeader.Dump.Literals

/-! Registries: dumpers by name, from which a converter is chosen. -/

namespace ImageHeader

/-- Dumpers, each under its own name, in the order of their names. -/
structure Registry where
  /-- The dumpers. -/
  dumpers : List Dumper

namespace Registry

/-- The registry without dumpers. -/
def empty : Registry := ⟨[]⟩

/-- The names of the dumpers in ascending order. -/
def names (registry : Registry) : List String := registry.dumpers.map Dumper.name

/-- The dumper with a name, if there is one. -/
def get? (registry : Registry) (name : String) : Option Dumper :=
  registry.dumpers.find? fun dumper => dumper.name = name

/-- Puts a dumper where its name belongs; one of the same name gives way. -/
def insert (dumper : Dumper) : List Dumper → List Dumper
  | [] => [dumper]
  | first :: rest =>
    -- The names stay in order, so the list of them needs no sorting when it is shown.
    if dumper.name < first.name then dumper :: first :: rest
    else if dumper.name = first.name then dumper :: rest
    else first :: insert dumper rest

/-- The registry with a dumper under its name. -/
def register (registry : Registry) (dumper : Dumper) : Registry :=
  ⟨insert dumper registry.dumpers⟩

/-- The registry without a name. -/
def erase (registry : Registry) (name : String) : Registry :=
  ⟨registry.dumpers.filter fun dumper => dumper.name ≠ name⟩

/-- The error for a name that is not registered. -/
def unknown (registry : Registry) (name : String) : DumpError :=
  .unknownConverter name (", ".intercalate registry.names)

/-- Takes a dumper out by its name. -/
def take (registry : Registry) (name : String) : Except DumpError (Dumper × Registry) :=
  match registry.get? name with
  | some dumper => .ok (dumper, registry.erase name)
  -- The error lists what is still there, not what was there once.
  | none => .error (registry.unknown name)

/-- The registry of the external and the builtin dumper. -/
def standard (host : Host) (program : Option Path) : Registry :=
  (empty.register (External.dumper (program.getD (External.programOf host)))).register
    (Literals.dumper Literals.defaultColumns)

end Registry

/-- The dumper that a configuration names. -/
def dumperFor (host : Host) (config : Config) : Except DumpError Dumper :=
  ((Registry.standard host config.xxdPath).take config.converter).map (·.1)

end ImageHeader
