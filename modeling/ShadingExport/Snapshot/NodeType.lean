import ShadingExport.Snapshot.Basic

/-!
# Host defaults of node types

Hosts leave out sockets and attributes that still have the default of their node type.
`NodeType.all` lists the known types with those defaults, and `Scene.fillDefaults` completes every
node tree of a scene from it; what a node says itself always stays.
-/

namespace ShadingExport

/-- A node type with the defaults of its sockets and attributes. -/
structure NodeType where
  /-- The host's name for the type. -/
  idname : String
  /-- The group under which the host offers the type. -/
  category : String
  /-- The default values of input sockets. -/
  inputs : Table Literal := .empty
  /-- The default values of attributes. -/
  params : Table Parameter := .empty

namespace NodeType

/-- The version of the list of node types. -/
def version : String := "1.0"

/-- A text as an attribute. -/
def textParam (text : String) : Parameter := ⟨.string text, rfl⟩

/-- A truth value as an attribute. -/
def flagParam (flag : Bool) : Parameter := ⟨.bool flag, rfl⟩

/-- Half-grey with full opacity as an attribute. -/
def greyParam : Parameter :=
  ⟨.array [.float 0.5, .float 0.5, .float 0.5, .float 1.0], rfl⟩

/-- The known node types. -/
def all : List NodeType := [
  { idname := "ShaderNodeBsdfDiffuse"
    category := "Shader"
    inputs := .ofList [("Color", .vec4 0.8 0.8 0.8 1.0), ("Roughness", .scalar 0.0)] },
  { idname := "ShaderNodeBsdfGlossy"
    category := "Shader"
    inputs := .ofList [("Color", .vec4 0.8 0.8 0.8 1.0), ("Roughness", .scalar 0.5)]
    params := .ofList [("distribution", textParam "GGX")] },
  { idname := "ShaderNodeBsdfGlass"
    category := "Shader"
    inputs := .ofList
      [("Color", .vec4 1.0 1.0 1.0 1.0), ("Roughness", .scalar 0.0), ("IOR", .scalar 1.45)]
    params := .ofList [("distribution", textParam "GGX")] },
  { idname := "ShaderNodeEmission"
    category := "Shader"
    inputs := .ofList [("Color", .vec4 1.0 1.0 1.0 1.0), ("Strength", .scalar 1.0)] },
  { idname := "ShaderNodeBackground"
    category := "Shader"
    inputs := .ofList
      [("Color", .vec4 0.050876 0.050876 0.050876 1.0), ("Strength", .scalar 1.0)] },
  { idname := "ShaderNodeMixShader"
    category := "Shader"
    inputs := .ofList [("Fac", .scalar 0.5)] },
  { idname := "ShaderNodeTexImage"
    category := "Texture" },
  { idname := "ShaderNodeTexEnvironment"
    category := "Texture" },
  { idname := "ShaderNodeNormalMap"
    category := "Vector"
    inputs := .ofList [("Strength", .scalar 1.0), ("Color", .vec4 0.5 0.5 1.0 1.0)]
    params := .ofList [("space", textParam "TANGENT")] },
  { idname := "ShaderNodeMapping"
    category := "Vector"
    inputs := .ofList
      [("Location", .vec3 0.0 0.0 0.0), ("Rotation", .vec3 0.0 0.0 0.0),
        ("Scale", .vec3 1.0 1.0 1.0)]
    params := .ofList [("vector_type", textParam "POINT")] },
  { idname := "ShaderNodeTexCoord"
    category := "Input" },
  { idname := "ShaderNodeFresnel"
    category := "Input"
    inputs := .ofList [("IOR", .scalar 1.45)] },
  { idname := "ShaderNodeRGB"
    category := "Input"
    params := .ofList [("color", greyParam)] },
  { idname := "ShaderNodeOutputMaterial"
    category := "Output"
    params := .ofList [("is_active_output", flagParam true)] },
  { idname := "ShaderNodeOutputWorld"
    category := "Output"
    params := .ofList [("is_active_output", flagParam true)] }]

/-- The node type of a host name. -/
def find? (idname : String) : Option NodeType :=
  all.find? (·.idname == idname)

/-- The type found under a name has that name. -/
theorem idname_of_find? {idname : String} {type : NodeType} (found : find? idname = some type) :
    type.idname = idname := by
  simpa using List.find?_some found

end NodeType

/-- Adds the defaults of the node's type for every socket and attribute that is missing. -/
def Node.fillDefaults (node : Node) : Node :=
  match NodeType.find? node.idname with
  | none => node
  | some type =>
    { node with inputs := node.inputs.fill type.inputs, params := node.params.fill type.params }

/-- Completes every node of a tree. -/
def NodeTree.fillDefaults (tree : NodeTree) : NodeTree :=
  { tree with nodes := tree.nodes.map Node.fillDefaults }

/-- Completes the tree of a material. -/
def HostMaterial.fillDefaults (material : HostMaterial) : HostMaterial :=
  { material with nodeTree := material.nodeTree.map NodeTree.fillDefaults }

/-- Completes the tree of a world. -/
def World.fillDefaults (world : World) : World :=
  { world with nodeTree := world.nodeTree.map NodeTree.fillDefaults }

/-- Completes all node trees of a scene. -/
def Scene.fillDefaults (scene : Scene) : Scene :=
  { scene with
    materials := scene.materials.map HostMaterial.fillDefaults
    world := scene.world.map World.fillDefaults }

end ShadingExport
