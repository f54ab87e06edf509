import ShadingExport.Snapshot.Basic

/-!
# Snapshots in JSON

Each part of a snapshot is written as an object with all its fields in a fixed order, absent
optional values as `null`. Reading accepts sparse forms: a field with a default may be left out,
and the array form of a record may end before its trailing defaults.
-/

namespace ShadingExport

/-- A table is written as an object whose members are in the order of the keys. -/
def Table.toJson {α : Type} (encode : α → Json) (table : Table α) : Json :=
  .object (table.entries.map fun entry => (entry.1, encode entry.2))

/-- A list is written as an array. -/
def Json.ofList {α : Type} (encode : α → Json) (values : List α) : Json :=
  .array (values.map encode)

namespace Image

/-- An image in JSON. -/
def toJson (image : Image) : Json :=
  .object [
    ("name", .string image.name),
    ("filepath", .string image.filepath),
    ("colorspace", .string image.colorspace)]

/-- The image that a JSON value writes. -/
def ofJson? (json : Json) : Option Image := do
  let fields ← Json.Fields.of? ["name", "filepath", "colorspace"] 1 json
  return {
    name := ← fields.required "name" Json.string?
    filepath := ← fields.withDefault "filepath" "" Json.string?
    colorspace := ← fields.withDefault "colorspace" "sRGB" Json.string? }

end Image

namespace Endpoint

/-- An end of a connection in JSON. -/
def toJson (endpoint : Endpoint) : Json :=
  .object [("nodeId", .string endpoint.node), ("portId", .string endpoint.socket)]

/-- The end of a connection that a JSON value writes. -/
def ofJson? (json : Json) : Option Endpoint := do
  let fields ← Json.Fields.of? ["nodeId", "portId"] 2 json
  return {
    node := ← fields.required "nodeId" Json.string?
    socket := ← fields.required "portId" Json.string? }

end Endpoint

namespace Connection

/-- A connection in JSON. -/
def toJson (connection : Connection) : Json :=
  .object [
    ("id", .string connection.id),
    ("from", connection.source.toJson),
    ("to", connection.target.toJson)]

/-- The connection that a JSON value writes. -/
def ofJson? (json : Json) : Option Connection := do
  let fields ← Json.Fields.of? ["id", "from", "to"] 3 json
  return {
    id := ← fields.withDefault "id" "" Json.string?
    source := ← fields.required "from" Endpoint.ofJson?
    target := ← fields.required "to" Endpoint.ofJson? }

end Connection

namespace Node

/-- A node in JSON. -/
def toJson (node : Node) : Json :=
  .object [
    ("id", .string node.id),
    ("type", .string node.idname),
    ("inputs", node.inputs.toJson Literal.toJson),
    ("params", node.params.toJson Parameter.json),
    ("image", Json.ofOption Image.toJson node.image)]

/-- The node that a JSON value writes. -/
def ofJson? (json : Json) : Option Node := do
  let fields ← Json.Fields.of? ["id", "type", "inputs", "params", "image"] 2 json
  return {
    id := ← fields.required "id" Json.string?
    idname := ← fields.required "type" Json.string?
    inputs := ← fields.withDefault "inputs" .empty (Json.table? Literal.ofJson?)
    params := ← fields.withDefault "params" .empty (Json.table? Parameter.ofJson?)
    image := ← fields.withDefault "image" none (Json.nullable? Image.ofJson?) }

end Node

namespace NodeTree

/-- A node tree in JSON. -/
def toJson (tree : NodeTree) : Json :=
  .object [
    ("nodes", Json.ofList Node.toJson tree.nodes),
    ("connections", Json.ofList Connection.toJson tree.connections)]

/-- The node tree that a JSON value writes. -/
def ofJson? (json : Json) : Option NodeTree := do
  let fields ← Json.Fields.of? ["nodes", "connections"] 0 json
  return {
    nodes := ← fields.withDefault "nodes" [] (Json.list? Node.ofJson?)
    connections := ← fields.withDefault "connections" [] (Json.list? Connection.ofJson?) }

end NodeTree

namespace HostMaterial

/-- A material in JSON. -/
def toJson (material : HostMaterial) : Json :=
  .object [
    ("name", .string material.name),
    ("users", .int material.users.toNat),
    ("useNodes", .bool material.useNodes),
    ("diffuseColor", material.diffuseColor.toJson),
    ("nodeTree", Json.ofOption NodeTree.toJson material.nodeTree)]

/-- The material that a JSON value writes. -/
def ofJson? (json : Json) : Option HostMaterial := do
  let fields ← Json.Fields.of? ["name", "users", "useNodes", "diffuseColor", "nodeTree"] 1 json
  let name ← fields.required "name" Json.string?
  let defaults : HostMaterial := { name }
  return {
    name
    users := ← fields.withDefault "users" defaults.users Json.count?
    useNodes := ← fields.withDefault "useNodes" defaults.useNodes Json.bool?
    diffuseColor := ← fields.withDefault "diffuseColor" defaults.diffuseColor Literal.ofJson?
    nodeTree := ← fields.withDefault "nodeTree" none (Json.nullable? NodeTree.ofJson?) }

end HostMaterial

namespace HostObject

/-- An object of the scene in JSON. -/
def toJson (object : HostObject) : Json :=
  .object [
    ("name", .string object.name),
    ("materials", Json.ofList .string object.materials)]

/-- The object of the scene that a JSON value writes. -/
def ofJson? (json : Json) : Option HostObject := do
  let fields ← Json.Fields.of? ["name", "materials"] 1 json
  return {
    name := ← fields.required "name" Json.string?
    materials := ← fields.withDefault "materials" [] (Json.list? Json.string?) }

end HostObject

namespace World

/-- A world in JSON. -/
def toJson (world : World) : Json :=
  .object [
    ("useNodes", .bool world.useNodes),
    ("color", world.color.toJson),
    ("nodeTree", Json.ofOption NodeTree.toJson world.nodeTree)]

/-- The world that a JSON value writes. -/
def ofJson? (json : Json) : Option World := do
  let defaults : World := {}
  let fields ← Json.Fields.of? ["useNodes", "color", "nodeTree"] 0 json
  return {
    useNodes := ← fields.withDefault "useNodes" defaults.useNodes Json.bool?
    color := ← fields.withDefault "color" defaults.color Literal.ofJson?
    nodeTree := ← fields.withDefault "nodeTree" none (Json.nullable? NodeTree.ofJson?) }

end World

namespace Metadata

/-- Metadata in JSON. -/
def toJson (metadata : Metadata) : Json :=
  .object [
    ("name", .string metadata.name),
    ("created", Json.ofOption .string metadata.created),
    ("modified", Json.ofOption .string metadata.modified)]

/-- The metadata that a JSON value writes; the array form needs all three fields. -/
def ofJson? (json : Json) : Option Metadata := do
  let fields ← Json.Fields.of? ["name", "created", "modified"] 3 json
  return {
    name := ← fields.withDefault "name" "" Json.string?
    created := ← fields.withDefault "created" none (Json.nullable? Json.string?)
    modified := ← fields.withDefault "modified" none (Json.nullable? Json.string?) }

end Metadata

namespace Scene

/-- A scene in JSON. -/
def toJson (scene : Scene) : Json :=
  .object [
    ("version", .string scene.version),
    ("metadata", scene.metadata.toJson),
    ("settings", Json.ofOption Settings.toJson scene.settings),
    ("materials", Json.ofList HostMaterial.toJson scene.materials),
    ("objects", Json.ofList HostObject.toJson scene.objects),
    ("world", Json.ofOption World.toJson scene.world)]

/-- The scene that a JSON value writes. -/
def ofJson? (json : Json) : Option Scene := do
  let defaults : Scene := {}
  let fields ← Json.Fields.of?
    ["version", "metadata", "settings", "materials", "objects", "world"] 0 json
  return {
    version := ← fields.withDefault "version" defaults.version Json.string?
    metadata := ← fields.withDefault "metadata" defaults.metadata Metadata.ofJson?
    settings := ← fields.withDefault "settings" none (Json.nullable? Settings.ofJson?)
    materials := ← fields.withDefault "materials" [] (Json.list? HostMaterial.ofJson?)
    objects := ← fields.withDefault "objects" [] (Json.list? HostObject.ofJson?)
    world := ← fields.withDefault "world" none (Json.nullable? World.ofJson?) }

end Scene

end ShadingExport
