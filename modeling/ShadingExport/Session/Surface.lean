import ShadingExport.Session.Basic

/-!
# Surfaces within a session

`Graph.surface` says what a surface needs and gives a record over images, which a session turns into
one over paths when all of it has been performed. Here surfaces are translated in one go: the
translators carry the session along, read its settings where they matter, and place an image when
they come to it, so that the path it has at that moment is the one in the record. What happened
before a failure stays.
-/

namespace ShadingExport

/-- A computation that carries a session along and may fail. -/
abbrev SessionM := ExceptT TranslationError (StateM Session)

namespace SessionM

/-- Tells a report. -/
def report (report : Report) : SessionM Unit := modify (·.perform [.report report])

/-- Leaves a trace. -/
def trace (trace : Trace) : SessionM Unit := modify (·.perform [.trace trace])

/-- The path of an image, which gets its place now if it has none. -/
def texturePath (image : Image) : SessionM String := do
  let session ← get
  set (session.perform [.texture image])
  return session.textures.path image

/-! ## Sockets -/

/-- The texture of a node that samples an image. -/
def texture (node : ShadingNode) : SessionM (ImageTexture String) := do
  let image ← node.getImage
  let path ← texturePath image
  let raw := dataColorspaces.contains image.colorspace
  if !raw && image.colorspace != "sRGB" then
    report (.colorSpace image.name image.colorspace)
  return ⟨path, raw⟩

/-- The index of refraction of a node. -/
def refractionIndex (node : ShadingNode) : SessionM Float := do
  let socket ← node.getInput "IOR"
  if socket.isLinked then
    report .texturedIor
  socket.getNumber

/-- The number that a socket gives. -/
def scalar (graph : Graph) (socket : Socket) : SessionM (VaryingScalar String) :=
  match graph.upstream? socket with
  | none => do
    let value ← socket.getNumber
    return .constant (if socket.name = roughnessName then microfacetRoughness value else value)
  | some node =>
    match node.kind with
    | .imageTexture => return .texture (← texture node)
    | .fresnel => return .fresnel (← refractionIndex node)
    | kind => throw (.unsupportedNode kind .scalar)

/-- The texture that feeds a normal map in tangent space. -/
def tangentNormals (graph : Graph) (node : ShadingNode) : SessionM (VaryingColor String) := do
  if (node.attributeText? "space").getD "TANGENT" ≠ "TANGENT" then
    throw (.unsupportedFeature .normalMapSpace)
  else
    let socket ← node.getInput "Color"
    match graph.upstream? socket with
    | none => throw (.unsupportedFeature (.normalMapWithoutTexture node.id))
    | some source =>
      if source.kind = .imageTexture then return .texture (← texture source)
      else throw (.unsupportedNode source.kind .normalMap)

/-- The color that a socket gives. -/
def color (graph : Graph) (socket : Socket) : SessionM (VaryingColor String) :=
  match graph.upstream? socket with
  | none => return .constant (← socket.getColor)
  | some node =>
    match node.kind with
    | .imageTexture => return .texture (← texture node)
    | .normalMap => tangentNormals graph node
    | .rgb => return .constant (← node.constantColor)
    | kind => throw (.unsupportedNode kind .color)

/-- The color of an input that a node may lack. -/
def optionalColor (graph : Graph) (node : ShadingNode) (name : String) :
    SessionM (Option (VaryingColor String)) :=
  match node.input? name with
  | none => return none
  | some socket => return some (← color graph socket)

/-- The roughness input of a node as a number. -/
def roughness (graph : Graph) (node : ShadingNode) : SessionM (VaryingScalar String) := do
  let socket ← node.getInput roughnessName
  scalar graph socket

/-- The strength of the normal map that feeds a socket. -/
def normalStrength (graph : Graph) (normal : Socket) : SessionM (Option Float) := do
  match graph.upstream? normal with
  | none => return none
  | some node =>
    if node.kind = .normalMap then
      let strength ← node.getInput "Strength"
      if strength.isLinked then
        throw (.unsupportedFeature .linkedNormalMapStrength)
      else
        return some (← strength.getNumber)
    else return none

/-! ## Materials -/

/-- A diffuse surface. -/
def diffuse (graph : Graph) (node : ShadingNode) :
    SessionM (Material String (MaterialRecord String)) := do
  if node.isRough then
    report (.roughDiffuse node.id)
  return .lambertian (← optionalColor graph node "Color")

/-- A glossy surface with an exponent, of which a Phong surface has a quarter. -/
def glossyExponent (graph : Graph) (mode : GlossyMode) (node : ShadingNode) (colorSocket : Socket)
    (distribution : Option Microfacet) : SessionM (Material String (MaterialRecord String)) := do
  let socket ← node.getInput roughnessName
  if socket.isLinked then
    throw (.unsupportedFeature .linkedPhongRoughness)
  else
    let roughness ← socket.getNumber
    let exponent := blinnExponent (microfacetRoughness roughness)
    let albedo ← color graph colorSocket
    match distribution with
    | some distribution =>
      if exponent.isFinite then
        return if mode = .phong then .phong (exponent / 4) distribution albedo
          else .blinnPhong exponent distribution albedo
      else return .metal (.constant 0) albedo
    | none => return .metal (.constant 0) albedo

/-- A glossy surface as the glossy mode of the session asks for. -/
def glossy (graph : Graph) (node : ShadingNode) :
    SessionM (Material String (MaterialRecord String)) := do
  let distribution ← node.distribution
  let colorSocket ← node.getInput "Color"
  match (← get).settings.glossyMode, distribution.microfacet? with
  | .roughConductor, some distribution =>
    let roughness ← roughness graph node
    return .roughConductor roughness distribution (← color graph colorSocket)
  | .roughConductor, none => return .conductor (← color graph colorSocket)
  | .metal, distribution =>
    let roughness ← match distribution with
      | some _ => roughness graph node
      | none => pure (.constant 0)
    return .metal roughness (← color graph colorSocket)
  | mode, distribution => glossyExponent graph mode node colorSocket distribution

/-- A refracting surface. -/
def glass (graph : Graph) (node : ShadingNode) :
    SessionM (Material String (MaterialRecord String)) := do
  let ior ← refractionIndex node
  let roughness ← roughness graph node
  let distribution ← node.distribution
  let transmittance ← optionalColor graph node "Color"
  match distribution.microfacet?, roughness.isZero with
  | some distribution, false => return .roughDielectric roughness distribution ior transmittance
  | _, _ =>
    if ior == 1 then return .thinDielectric ior transmittance
    else return .dielectric ior transmittance

/-- An emitter with literal strength and color. -/
def emission (node : ShadingNode) : SessionM (Material String (MaterialRecord String)) := do
  let strength ← node.getInput "Strength"
  if strength.isLinked then
    throw (.unsupportedFeature .linkedEmitterStrength)
  else
    let color ← node.getInput "Color"
    if color.isLinked then
      throw (.unsupportedFeature .linkedEmitterColor)
    else
      let base ← color.getColor
      let factor ← strength.getNumber
      let radiance := base.scale factor
      if radiance.sum == 0 then
        report (.zeroEmission node.id)
        return .lambertian (some (.constant (.grey 0)))
      else return .diffuseLight radiance

/-- A mixture of two surfaces, each translated by `side`. -/
def blend (graph : Graph) (side : ShadingNode → SessionM (MaterialRecord String))
    (node : ShadingNode) : SessionM (Material String (MaterialRecord String)) := do
  match graph.feeding? node "Shader", graph.feeding? node "Shader_001" with
  | some first, some second =>
    let fac ← node.getInput "Fac"
    let amount ← scalar graph fac
    let firstRecord ← side first
    let secondRecord ← side second
    return .blend amount firstRecord secondRecord
  | _, _ => throw (.unsupportedFeature .incompleteMix)

/-- The material of a node, with mixtures translated by `side`. -/
def material (graph : Graph) (side : ShadingNode → SessionM (MaterialRecord String))
    (node : ShadingNode) : SessionM (Material String (MaterialRecord String)) :=
  match node.kind with
  | .diffuse => diffuse graph node
  | .glossy => glossy graph node
  | .glass => glass graph node
  | .emission => emission node
  | .mix => blend graph side node
  | kind => throw (.unsupportedNode kind .surface)

/-- A record with its normals perturbed by the linked normal input of its node, if there is one. -/
def perturbed (graph : Graph) (node : ShadingNode) (record : MaterialRecord String) :
    SessionM (MaterialRecord String) := do
  match node.input? "Normal" with
  | none => return record
  | some normal =>
    if normal.isLinked then
      let normals ← color graph normal
      let strength ← normalStrength graph normal
      return ⟨record.name, .normalMap normals strength ⟨none, record.material⟩⟩
    else return record

/-- Translates a node, with mixtures nested at most `depth` deep. -/
def surfaceWithin (graph : Graph) :
    Nat → ShadingNode → Option String → SessionM (MaterialRecord String)
  | 0, _, _ => throw (.unsupportedFeature .cyclicMix)
  | depth + 1, node, name => do
    trace (.translating node.kind node.id)
    let material ← material graph (surfaceWithin graph depth · none) node
    perturbed graph node ⟨name, material⟩

end SessionM

/-- Translates a node into a record of the given name, with every image placed as it comes. -/
def Session.translate (session : Session) (graph : Graph) (node : ShadingNode)
    (name : Option String) : Except TranslationError (MaterialRecord String) × Session :=
  (SessionM.surfaceWithin graph graph.size node name).run.run session

end ShadingExport
