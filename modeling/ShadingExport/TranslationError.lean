import ShadingExport.NodeKind

/-!
# Why a translation fails

A `TranslationError` is the cause of a failed translation, as data; `TranslationError.message`
words it. Every one is recoverable: a failed material becomes a placeholder and a failed world a
constant.
-/

namespace ShadingExport

/-- A place in a shading graph that only some kinds of nodes can stand in. -/
inductive Place where
  /-- The source of a surface. -/
  | surface
  /-- The source of a number. -/
  | scalar
  /-- The source of a color. -/
  | color
  /-- The source of a normal map. -/
  | normalMap
  /-- The source of a world's radiance. -/
  | world
  /-- The source of the color of a world's radiance. -/
  | worldColor
  /-- The source of an environment texture's coordinates. -/
  | environmentVector
  /-- The source of a mapping's coordinates. -/
  | mappingVector
  deriving DecidableEq, Repr

/-- The kinds of nodes that can stand in a place, in words. -/
def Place.accepted : Place → String
  | .surface => "diffuse, glossy, glass, emission and mix shader nodes"
  | .scalar => "image texture and fresnel nodes"
  | .color => "image texture, normal map and RGB nodes"
  | .normalMap => "image texture nodes"
  | .world => "background and emission nodes"
  | .worldColor => "environment texture and RGB nodes"
  | .environmentVector => "mapping nodes"
  | .mappingVector => "texture coordinate nodes"

/-- What a literal has to be. -/
inductive LiteralShape where
  /-- A number. -/
  | scalar
  /-- A number, or three or four numbers. -/
  | color
  /-- Three angles or a matrix. -/
  | rotation
  deriving DecidableEq, Repr

/-- The name of a shape. -/
def LiteralShape.name : LiteralShape → String
  | .scalar => "scalar"
  | .color => "color"
  | .rotation => "rotation"

/-- A use of supported nodes that the renderer cannot express. -/
inductive Feature where
  /-- A socket is not linked and holds no literal. -/
  | noLiteral (socket : String)
  /-- A distribution has no known name. -/
  | distribution (name : String)
  /-- A texture node samples no image. -/
  | noImage (node : String)
  /-- The roughness of a Phong material is linked. -/
  | linkedPhongRoughness
  /-- The strength of an emitter is linked. -/
  | linkedEmitterStrength
  /-- The color of an emitter is linked. -/
  | linkedEmitterColor
  /-- A mixture lacks one of its sides. -/
  | incompleteMix
  /-- Mixtures contain each other. -/
  | cyclicMix
  /-- A normal map is not in tangent space. -/
  | normalMapSpace
  /-- A normal map is not fed by a texture. -/
  | normalMapWithoutTexture (node : String)
  /-- The strength of a normal map is linked. -/
  | linkedNormalMapStrength
  /-- A material tree has no output. -/
  | noOutput
  /-- The output of a material tree has no surface. -/
  | unlinkedSurface
  /-- A mapping has no coordinates. -/
  | unlinkedMapping
  /-- A mapping takes other coordinates than the generated ones. -/
  | otherCoordinates
  /-- The rotation of a mapping is linked. -/
  | linkedRotation
  deriving DecidableEq, Repr

/-- The text about an unsupported use. -/
def Feature.message : Feature → String
  | .noLiteral socket => s!"input '{socket}' has no literal value"
  | .distribution name => s!"microfacet distribution {name} is not supported"
  | .noImage node => s!"texture node '{node}' has no image assigned"
  | .linkedPhongRoughness => "Phong and Blinn-Phong roughness does not support textures"
  | .linkedEmitterStrength => "only literal emitter strength values are supported"
  | .linkedEmitterColor => "only literal emitter colors are supported"
  | .incompleteMix => "mix shader is not linked to two materials"
  | .cyclicMix => "mix shaders contain each other"
  | .normalMapSpace => "only tangent-space normal maps are supported"
  | .normalMapWithoutTexture node => s!"normal map node '{node}' is not fed by an image texture"
  | .linkedNormalMapStrength => "only literal normal map strength values are supported"
  | .noOutput => "Cannot find material output node"
  | .unlinkedSurface => "the Surface input of the material output is unlinked"
  | .unlinkedMapping => "the mapping node should be linked to a texture coordinate node"
  | .otherCoordinates => "the texture coordinate link should come from 'Generated'"
  | .linkedRotation => "rotation inputs should not be linked"

/-- A defect of a node tree, for which it makes no graph. -/
inductive Defect where
  /-- Two nodes have one id. -/
  | duplicateNode (id : String)
  /-- An end of a connection is no node of the tree. -/
  | missingNode (source target : String)
  /-- Two connections lead to one input. -/
  | doubleLink (node socket : String)
  deriving DecidableEq, Repr

/-- The text about a defect. -/
def Defect.message : Defect → String
  | .duplicateNode id => s!"duplicate node id: {id}"
  | .missingNode source target => s!"connection references missing node: {source} -> {target}"
  | .doubleLink node socket => s!"input {node}.{socket} has more than one incoming link"

/-- The cause of a failed translation. -/
inductive TranslationError where
  /-- A node stands in a place that its kind cannot take. -/
  | unsupportedNode (kind : NodeKind) (place : Place)
  /-- Supported nodes are used in a way the renderer cannot express. -/
  | unsupportedFeature (feature : Feature)
  /-- A node lacks an input that the translation needs. -/
  | missingInput (node socket : String)
  /-- A literal has the wrong shape. -/
  | invalidLiteral (socket : String) (expected : LiteralShape)
  /-- A node tree is malformed. -/
  | malformedGraph (defect : Defect)
  deriving DecidableEq, Repr

/-- The text of an error. -/
def TranslationError.message : TranslationError → String
  | .unsupportedNode kind place =>
    s!"node type {kind.idname} is not supported; only {place.accepted} are supported here"
  | .unsupportedFeature feature => feature.message
  | .missingInput node socket => s!"node '{node}' has no '{socket}' input"
  | .invalidLiteral socket expected =>
    s!"input '{socket}' holds a literal that is not a {expected.name}"
  | .malformedGraph defect => s!"malformed node tree: {defect.message}"

/-- The distribution of a name, or the error that tells the name. -/
def Distribution.parse (name : String) : Except TranslationError Distribution :=
  match Distribution.ofName? name with
  | some distribution => .ok distribution
  | none => .error (.unsupportedFeature (.distribution name))

end ShadingExport
