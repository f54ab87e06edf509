import ShadingExport.Literal
import ShadingExport.Settings
import ShadingExport.Json.Canonical

/-!
# Scene snapshots

A snapshot is what a host application tells about a scene: its materials with their shading node
trees, the objects that use them, and the world around them. Sparse snapshots leave fields out;
every such field has its default here. Node trees refer to nodes by id and to sockets by name.
-/

namespace ShadingExport

/-- An image that a texture node samples. -/
structure Image where
  /-- The name of the image in the host. -/
  name : String
  /-- The file the image was loaded from; empty for an image that only lives in the host. -/
  filepath : String := ""
  /-- The color space of the stored pixels. -/
  colorspace : String := "sRGB"
  deriving DecidableEq, Repr, Inhabited

/-- One end of a connection: a socket of a node. -/
structure Endpoint where
  /-- The id of the node. -/
  node : String
  /-- The name of the socket. -/
  socket : String
  deriving DecidableEq, Repr, Inhabited

/-- A connection from an output socket to an input socket. -/
structure Connection where
  /-- The id of the connection. -/
  id : String := ""
  /-- The output socket. -/
  source : Endpoint
  /-- The input socket. -/
  target : Endpoint
  deriving DecidableEq, Repr, Inhabited

/-- A node of a shading tree. -/
structure Node where
  /-- The id of the node, by which connections refer to it. -/
  id : String
  /-- The host's name for the type of the node. -/
  idname : String
  /-- The literal values of input sockets, by socket name. -/
  inputs : Table Literal := .empty
  /-- The attributes that depend on the type of the node. -/
  params : Table Parameter := .empty
  /-- The image that the node samples. -/
  image : Option Image := none

/-- A shading node tree. -/
structure NodeTree where
  /-- The nodes. -/
  nodes : List Node := []
  /-- The connections between them. -/
  connections : List Connection := []

/-- A material of the host. -/
structure HostMaterial where
  /-- The name of the material in the host. -/
  name : String
  /-- How many parts of the host's document use the material. -/
  users : UInt32 := 1
  /-- Whether the node tree counts. -/
  useNodes : Bool := true
  /-- The color of the material where the node tree does not count. -/
  diffuseColor : Literal := .vec4 0.8 0.8 0.8 1.0
  /-- The shading node tree. -/
  nodeTree : Option NodeTree := none

/-- The tree that decides the look of a material, if there is one and it counts. -/
def HostMaterial.activeTree? (material : HostMaterial) : Option NodeTree :=
  if material.useNodes then material.nodeTree else none

/-- An object of the scene with the names of its materials. -/
structure HostObject where
  /-- The name of the object. -/
  name : String
  /-- The names of the materials it uses. -/
  materials : List String := []
  deriving DecidableEq, Repr, Inhabited

/-- The surroundings of the scene. -/
structure World where
  /-- Whether the node tree counts. -/
  useNodes : Bool := true
  /-- The color of the world where the node tree does not count. -/
  color : Literal := .vec3 0.050876 0.050876 0.050876
  /-- The shading node tree. -/
  nodeTree : Option NodeTree := none

/-- The tree that decides the look of the world, if there is one and it counts. -/
def World.activeTree? (world : World) : Option NodeTree :=
  if world.useNodes then world.nodeTree else none

/-- What the snapshot tells about itself. -/
structure Metadata where
  /-- The name of the scene. -/
  name : String := ""
  /-- When the scene was created. -/
  created : Option String := none
  /-- When the scene was last changed. -/
  modified : Option String := none
  deriving DecidableEq, Repr, Inhabited

/-- A snapshot of a scene. -/
structure Scene where
  /-- The version of the snapshot format. -/
  version : String := "1.0"
  /-- What the snapshot tells about itself. -/
  metadata : Metadata := {}
  /-- The settings stored with the scene. -/
  settings : Option Settings := none
  /-- The materials. -/
  materials : List HostMaterial := []
  /-- The objects. -/
  objects : List HostObject := []
  /-- The surroundings. -/
  world : Option World := none

/-- The first material of a name. -/
def Scene.material? (scene : Scene) (name : String) : Option HostMaterial :=
  scene.materials.find? (·.name == name)

end ShadingExport
