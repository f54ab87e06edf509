import ShadingExport.Translation.Basic

/-!
# What feeds a socket

A socket that is not linked gives its literal. A linked one gives what its upstream node stands
for: a texture, a Fresnel factor, the texture of a normal map, or a constant color. Roughness is
perceptual at the host and squared for the renderer, but only as a literal.
-/

namespace ShadingExport

/-- The name of the input whose literal is perceptual. -/
def roughnessName : String := "Roughness"

/-- The microfacet roughness of a perceptual one. -/
def microfacetRoughness (roughness : Float) : Float := roughness * roughness

/-- The color spaces that hold data rather than colors. -/
def dataColorspaces : List String := ["Non-Color", "Raw", "Linear"]

namespace ShadingNode

/-- The texture of a node that samples an image. A color space that is neither sRGB nor a data
space is reported and treated as sRGB. -/
def texture (node : ShadingNode) : Translation (ImageTexture Image) := do
  let image ← node.getImage
  Translation.emit (.texture image)
  let raw := dataColorspaces.contains image.colorspace
  if !raw && image.colorspace != "sRGB" then
    Translation.report (.colorSpace image.name image.colorspace)
  return ⟨image, raw⟩

/-- The index of refraction of a node; a link to it is reported and ignored. -/
def refractionIndex (node : ShadingNode) : Translation Float := do
  let socket ← node.getInput "IOR"
  if socket.isLinked then
    Translation.report .texturedIor
  socket.getNumber

end ShadingNode

namespace Graph

/-- The number that a socket gives. -/
def scalar (graph : Graph) (socket : Socket) : Translation (VaryingScalar Image) :=
  match graph.upstream? socket with
  | none => do
    let value ← socket.getNumber
    return .constant (if socket.name = roughnessName then microfacetRoughness value else value)
  | some node =>
    match node.kind with
    | .imageTexture => return .texture (← node.texture)
    | .fresnel => return .fresnel (← node.refractionIndex)
    | kind => Translation.fail (.unsupportedNode kind .scalar)

/-- The texture that feeds a normal map in tangent space. -/
def tangentNormals (graph : Graph) (node : ShadingNode) : Translation (VaryingColor Image) := do
  if (node.attributeText? "space").getD "TANGENT" ≠ "TANGENT" then
    Translation.fail (.unsupportedFeature .normalMapSpace)
  else
    let socket ← node.getInput "Color"
    match graph.upstream? socket with
    | none => Translation.fail (.unsupportedFeature (.normalMapWithoutTexture node.id))
    | some source =>
      if source.kind = .imageTexture then return .texture (← source.texture)
      else Translation.fail (.unsupportedNode source.kind .normalMap)

/-- The color that a socket gives. -/
def color (graph : Graph) (socket : Socket) : Translation (VaryingColor Image) :=
  match graph.upstream? socket with
  | none => return .constant (← socket.getColor)
  | some node =>
    match node.kind with
    | .imageTexture => return .texture (← node.texture)
    | .normalMap => graph.tangentNormals node
    | .rgb => return .constant (← node.constantColor)
    | kind => Translation.fail (.unsupportedNode kind .color)

/-- The color of an input that a node may lack. -/
def optionalColor (graph : Graph) (node : ShadingNode) (name : String) :
    Translation (Option (VaryingColor Image)) :=
  match node.input? name with
  | none => return none
  | some socket => return some (← graph.color socket)

/-- The strength of the normal map that feeds a socket; a texture that feeds it directly has
none. -/
def normalStrength (graph : Graph) (normal : Socket) : Translation (Option Float) := do
  match graph.upstream? normal with
  | none => return none
  | some node =>
    if node.kind = .normalMap then
      let strength ← node.getInput "Strength"
      if strength.isLinked then
        Translation.fail (.unsupportedFeature .linkedNormalMapStrength)
      else
        return some (← strength.getNumber)
    else return none

/-- Perturbs the normals of a record by what feeds a socket. The result takes the name of the
record over, and the record nested in it has none. -/
def withNormals (graph : Graph) (base : MaterialRecord Image) (normal : Socket) :
    Translation (MaterialRecord Image) := do
  let normals ← graph.color normal
  let strength ← graph.normalStrength normal
  return ⟨base.name, .normalMap normals strength ⟨none, base.material⟩⟩

end Graph

end ShadingExport
