import ShadingExport.Translation.Socket
import ShadingExport.Graph.OfTree
import ShadingExport.Settings

/-!
# Surfaces

`Graph.surface` translates a shading node, with everything that feeds it, into a material record.
The kind of the node decides the material; glossy nodes also depend on the glossy mode. A mixture
translates both of its sides, so the recursion follows the links between mix nodes. It is bounded by
the size of the graph, which is enough if no mix node contains itself.
-/

namespace ShadingExport

/-- The Blinn-Phong exponent of a microfacet roughness. It is never negative; a roughness that is
not a number has exponent zero, and a vanishing one an infinite exponent. -/
def blinnExponent (alpha : Float) : Float :=
  let exponent := 2 / (alpha * alpha) - 1
  if exponent > 0 then exponent else 0

namespace ShadingNode

/-- The roughness of a diffuse node says something: it is linked, or a number other than zero. -/
def isRough (node : ShadingNode) : Bool :=
  match node.input? roughnessName with
  | none => false
  | some socket =>
    socket.isLinked || ((socket.default.bind Literal.scalar?).any fun value => value != 0)

/-- An emitter with literal strength and color. One that emits nothing is reported and replaced by
a black surface. -/
def emission (node : ShadingNode) :
    Translation (Material Image (MaterialRecord Image)) := do
  let strength ← node.getInput "Strength"
  if strength.isLinked then
    Translation.fail (.unsupportedFeature .linkedEmitterStrength)
  else
    let color ← node.getInput "Color"
    if color.isLinked then
      Translation.fail (.unsupportedFeature .linkedEmitterColor)
    else
      let base ← color.getColor
      let factor ← strength.getNumber
      let radiance := base.scale factor
      -- Components of opposite sign may cancel; such a light counts as dark too.
      if radiance.sum == 0 then
        Translation.report (.zeroEmission node.id)
        return .lambertian (some (.constant (.grey 0)))
      else return .diffuseLight radiance

end ShadingNode

namespace Graph

/-- The roughness input of a node as a number. -/
def roughness (graph : Graph) (node : ShadingNode) : Translation (VaryingScalar Image) := do
  let socket ← node.getInput roughnessName
  graph.scalar socket

/-- A diffuse surface; its roughness is reported and ignored. -/
def diffuse (graph : Graph) (node : ShadingNode) :
    Translation (Material Image (MaterialRecord Image)) := do
  if node.isRough then
    Translation.report (.roughDiffuse node.id)
  return .lambertian (← graph.optionalColor node "Color")

/-- A glossy surface as a conductor. -/
def glossyConductor (graph : Graph) (node : ShadingNode) (color : Socket) :
    Option Microfacet → Translation (Material Image (MaterialRecord Image))
  | some distribution => do
    let roughness ← graph.roughness node
    return .roughConductor roughness distribution (← graph.color color)
  | none => return .conductor (← graph.color color)

/-- A glossy surface as a metal. -/
def glossyMetal (graph : Graph) (node : ShadingNode) (color : Socket)
    (distribution : Option Microfacet) : Translation (Material Image (MaterialRecord Image)) := do
  let roughness ← match distribution with
    | some _ => graph.roughness node
    | none => pure (.constant 0)
  return .metal roughness (← graph.color color)

/-- A glossy surface with an exponent. Roughness has to be literal; where it vanishes, or the
reflection is ideally specular, the surface is a smooth metal. -/
def glossyExponent (graph : Graph) (node : ShadingNode) (color : Socket)
    (distribution : Option Microfacet)
    (material : Float → Microfacet → VaryingColor Image → Material Image (MaterialRecord Image)) :
    Translation (Material Image (MaterialRecord Image)) := do
  let socket ← node.getInput roughnessName
  if socket.isLinked then
    Translation.fail (.unsupportedFeature .linkedPhongRoughness)
  else
    let roughness ← socket.getNumber
    let exponent := blinnExponent (microfacetRoughness roughness)
    let albedo ← graph.color color
    match distribution with
    | some distribution =>
      if exponent.isFinite then return material exponent distribution albedo
      else return .metal (.constant 0) albedo
    | none => return .metal (.constant 0) albedo

/-- A glossy surface as the glossy mode asks for. A Phong exponent is a quarter of the Blinn-Phong
one. -/
def glossy (graph : Graph) (mode : GlossyMode) (node : ShadingNode) :
    Translation (Material Image (MaterialRecord Image)) := do
  let distribution ← node.distribution
  -- Only the presence of the color counts here; each mode looks at its value last.
  let color ← node.getInput "Color"
  match mode with
  | .roughConductor => graph.glossyConductor node color distribution.microfacet?
  | .metal => graph.glossyMetal node color distribution.microfacet?
  | .blinnPhong => graph.glossyExponent node color distribution.microfacet? .blinnPhong
  | .phong =>
    graph.glossyExponent node color distribution.microfacet? fun exponent => .phong (exponent / 4)

/-- A refracting surface: rough if it has a distribution and its roughness is not the literal
zero, a thin sheet if it does not bend light, and smooth otherwise. -/
def glass (graph : Graph) (node : ShadingNode) :
    Translation (Material Image (MaterialRecord Image)) := do
  let ior ← node.refractionIndex
  let roughness ← graph.roughness node
  let distribution ← node.distribution
  let transmittance ← graph.optionalColor node "Color"
  -- A varying roughness is never zero, so a texture alone makes the surface rough.
  match distribution.microfacet?, roughness.isZero with
  | some distribution, false => return .roughDielectric roughness distribution ior transmittance
  | _, _ =>
    if ior == 1 then return .thinDielectric ior transmittance
    else return .dielectric ior transmittance

/-- A mixture of two surfaces, each translated by `side`. -/
def blend (graph : Graph) (side : ShadingNode → Translation (MaterialRecord Image))
    (node : ShadingNode) : Translation (Material Image (MaterialRecord Image)) := do
  match graph.feeding? node "Shader", graph.feeding? node "Shader_001" with
  | some first, some second =>
    -- The amount settles before either side: its errors and reports come first.
    let fac ← node.getInput "Fac"
    let amount ← graph.scalar fac
    let firstRecord ← side first
    let secondRecord ← side second
    return .blend amount firstRecord secondRecord
  | _, _ => Translation.fail (.unsupportedFeature .incompleteMix)

/-- The material of a node, with mixtures translated by `side`. -/
def material (graph : Graph) (mode : GlossyMode)
    (side : ShadingNode → Translation (MaterialRecord Image)) (node : ShadingNode) :
    Translation (Material Image (MaterialRecord Image)) :=
  match node.kind with
  | .diffuse => graph.diffuse node
  | .glossy => graph.glossy mode node
  | .glass => graph.glass node
  | .emission => node.emission
  | .mix => graph.blend side node
  | kind => Translation.fail (.unsupportedNode kind .surface)

/-- A record with its normals perturbed by the linked normal input of its node, if there is one. -/
def perturbed (graph : Graph) (node : ShadingNode) (record : MaterialRecord Image) :
    Translation (MaterialRecord Image) :=
  match node.input? "Normal" with
  | some normal => if normal.isLinked then graph.withNormals record normal else return record
  | none => return record

/-- Translates a node, with mixtures translated by `side`. A linked normal input perturbs the
normals of the whole material. -/
def surfaceStep (graph : Graph) (mode : GlossyMode)
    (side : ShadingNode → Translation (MaterialRecord Image)) (node : ShadingNode)
    (name : Option String) : Translation (MaterialRecord Image) := do
  Translation.emit (.trace (.translating node.kind node.id))
  let material ← graph.material mode side node
  graph.perturbed node ⟨name, material⟩

/-- Translates a node, with mixtures nested at most `depth` deep. -/
def surfaceWithin (graph : Graph) (mode : GlossyMode) :
    Nat → ShadingNode → Option String → Translation (MaterialRecord Image)
  | 0, _, _ => Translation.fail (.unsupportedFeature .cyclicMix)
  | depth + 1, node, name =>
    graph.surfaceStep mode (graph.surfaceWithin mode depth · none) node name

/-- Translates a node into a record of the given name. -/
def surface (graph : Graph) (mode : GlossyMode) (node : ShadingNode) (name : Option String) :
    Translation (MaterialRecord Image) :=
  graph.surfaceWithin mode graph.size node name

/-- The node that feeds the surface of the output. -/
def surfaceNode (graph : Graph) : Except TranslationError ShadingNode :=
  match graph.output? with
  | none => .error (.unsupportedFeature .noOutput)
  | some output =>
    match graph.feeding? output "Surface" with
    | none => .error (.unsupportedFeature .unlinkedSurface)
    | some node => .ok node

end Graph

/-- Translates the surface of a material tree into a record of the given name. -/
def NodeTree.surface (tree : NodeTree) (mode : GlossyMode) (name : String) :
    Translation (MaterialRecord Image) := do
  let graph ← Graph.ofTree tree
  let node ← graph.surfaceNode
  graph.surface mode node (some name)

end ShadingExport
