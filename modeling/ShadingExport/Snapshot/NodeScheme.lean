import ShadingExport.Snapshot.Json
import ShadingExport.Snapshot.NodeType

/-!
# Schemes of node types

The defaults of node types come from a document, the scheme: it has a version and, for each type,
the group that the host offers it under and the defaults of its sockets and attributes, all of which
may be left out. `NodeScheme.bundled` is the scheme of the types in `NodeType.all`.
-/

namespace ShadingExport

/-- What a scheme says about a node type. -/
structure NodeDefaults where
  /-- The group under which the host offers the type. -/
  category : Option String := none
  /-- The default values of input sockets. -/
  inputs : Table Literal := .empty
  /-- The default values of attributes. -/
  params : Table Parameter := .empty

namespace NodeDefaults

/-- The defaults of a node type in JSON. -/
def toJson (defaults : NodeDefaults) : Json :=
  .object [
    ("category", Json.ofOption .string defaults.category),
    ("default_inputs", defaults.inputs.toJson Literal.toJson),
    ("default_params", defaults.params.toJson Parameter.json)]

/-- The defaults of a node type that a JSON value writes. -/
def ofJson? (json : Json) : Option NodeDefaults := do
  let fields ← Json.Fields.of? ["category", "default_inputs", "default_params"] 0 json
  return {
    category := ← fields.withDefault "category" none (Json.nullable? Json.string?)
    inputs := ← fields.withDefault "default_inputs" .empty (Json.table? Literal.ofJson?)
    params := ← fields.withDefault "default_params" .empty (Json.table? Parameter.ofJson?) }

end NodeDefaults

/-- What a scheme says about a known node type. -/
def NodeType.defaults (type : NodeType) : NodeDefaults where
  category := some type.category
  inputs := type.inputs
  params := type.params

/-- A scheme of node types. -/
structure NodeScheme where
  /-- The version of the scheme. -/
  version : String
  /-- The defaults of the node types, by the host's names for them. -/
  types : Table NodeDefaults

namespace NodeScheme

/-- A scheme in JSON. -/
def toJson (scheme : NodeScheme) : Json :=
  .object [
    ("version", .string scheme.version),
    ("nodes", scheme.types.toJson NodeDefaults.toJson)]

/-- The scheme that a JSON value writes. -/
def ofJson? (json : Json) : Option NodeScheme := do
  let fields ← Json.Fields.of? ["version", "nodes"] 2 json
  return {
    version := ← fields.required "version" Json.string?
    types := ← fields.required "nodes" (Json.table? NodeDefaults.ofJson?) }

/-- Adds the defaults that a scheme has for the type of a node. -/
def fillDefaults (scheme : NodeScheme) (node : Node) : Node :=
  match scheme.types.get? node.idname with
  | none => node
  | some defaults =>
    { node with
      inputs := node.inputs.fill defaults.inputs
      params := node.params.fill defaults.params }

/-- The scheme of the known node types. -/
def bundled : NodeScheme where
  version := NodeType.version
  types := .ofList (NodeType.all.map fun type => (type.idname, type.defaults))

end NodeScheme

end ShadingExport
