import ShadingExport.Record.Basic

/-!
# The registry of exported materials

During an export the registry holds the records written so far, in the order of registration, each
under its exported name and with the host material that it came from. A name is registered once;
further registrations of it are refused.
-/

namespace ShadingExport

/-- A registered record. -/
structure RegistryEntry where
  /-- The exported name. -/
  name : String
  /-- The host material that the record came from; built-in records have none. -/
  host : Option String
  /-- The record. -/
  record : MaterialRecord String

/-- The records of an export. -/
structure Registry where
  /-- The entries, in the order of registration. -/
  entries : List RegistryEntry := []

namespace Registry

/-- The registry without records. -/
def empty : Registry := {}

/-- The entry of a name. -/
def find? (registry : Registry) (name : String) : Option RegistryEntry :=
  registry.entries.find? (·.name == name)

/-- The position of the entry of a name. -/
def position? (registry : Registry) (name : String) : Option Nat :=
  registry.entries.findIdx? (·.name == name)

/-- The name is registered. -/
def contains (registry : Registry) (name : String) : Bool := (registry.find? name).isSome

/-- The host material registered under a name, if the record came from the host. -/
def owner? (registry : Registry) (name : String) : Option String :=
  (registry.find? name).bind RegistryEntry.host

/-- Registers a record under a name, unless the name is taken; tells whether it was free. -/
def register (registry : Registry) (name : String) (host : Option String)
    (record : MaterialRecord String) : Bool × Registry :=
  if registry.contains name then (false, registry)
  else (true, ⟨registry.entries ++ [⟨name, host, record⟩]⟩)

/-- The number of records. -/
def size (registry : Registry) : Nat := registry.entries.length

/-- There are no records. -/
def isEmpty (registry : Registry) : Bool := registry.entries.isEmpty

/-- The records, in the order of registration. -/
def records (registry : Registry) : List (MaterialRecord String) :=
  registry.entries.map RegistryEntry.record

/-- The registered names, in the order of registration. -/
def names (registry : Registry) : List String := registry.entries.map RegistryEntry.name

/-- A name is registered exactly if it is among the names. -/
theorem contains_iff_mem_names (registry : Registry) (name : String) :
    registry.contains name ↔ name ∈ registry.names := by
  simp [contains, find?, names, List.find?_isSome]

/-- A refused registration changes nothing. -/
theorem register_of_contains {registry : Registry} {name : String} (host : Option String)
    (record : MaterialRecord String) (taken : registry.contains name) :
    registry.register name host record = (false, registry) := by
  simp [register, taken]

end Registry

end ShadingExport
