import ShadingExport.Translation.Socket
import ShadingExport.Graph.OfTree

/-!
# Worlds

A world is a constant radiance or an environment map. `World.background` translates it and may
fail; `translateWorld` settles a failure by a report and a constant. An environment map may be
rotated by a mapping of generated coordinates, and by nothing else.
-/

namespace ShadingExport

/-- The background where nothing emits. -/
def darkBackground : Background Image := .constant (.grey 0)

/-- The background of a world that cannot be translated. -/
def fallbackBackground : Background Image := .constant (.grey 5)

/-- The rotation that a literal gives: three angles or a matrix. -/
def Literal.rotation? : Literal → Option (Matrix Float)
  | .vec3 x y z => some (.ofEulerAngles x y z)
  | .matrix value => some value
  | _ => none

/-- The rotation of a mapping, which has to be a literal. -/
def ShadingNode.rotation (mapping : ShadingNode) : Except TranslationError (Matrix Float) := do
  let socket ← mapping.getInput "Rotation"
  if socket.isLinked then .error (.unsupportedFeature .linkedRotation)
  else
    match (← socket.getLiteral).rotation? with
    | some rotation => .ok rotation
    | none => .error (.invalidLiteral "Rotation" .rotation)

namespace Graph

/-- Fails unless a mapping is fed by generated texture coordinates. -/
def checkCoordinates (graph : Graph) (mapping : ShadingNode) : Except TranslationError Unit :=
  match (mapping.input? "Vector").bind Socket.link with
  | none => .error (.unsupportedFeature .unlinkedMapping)
  | some link =>
    match graph.node? link.node with
    | none => .error (.unsupportedFeature .unlinkedMapping)
    | some source =>
      if source.kind ≠ .textureCoordinate then
        .error (.unsupportedNode source.kind .mappingVector)
      else if link.output ≠ "Generated" then .error (.unsupportedFeature .otherCoordinates)
      else .ok ()

/-- The rotation of a mapping of generated texture coordinates. -/
def coordinateRotation (graph : Graph) (mapping : ShadingNode) :
    Except TranslationError (Matrix Float) := do
  if mapping.kind ≠ .mapping then .error (.unsupportedNode mapping.kind .environmentVector)
  else
    graph.checkCoordinates mapping
    mapping.rotation

/-- The environment map of a texture node. -/
def envmap (graph : Graph) (node : ShadingNode) (scale : Float) :
    Translation (Background Image) := do
  let image ← node.getImage
  -- The image is asked for before the mapping is looked at, and stays asked for if that fails.
  Translation.emit (.texture image)
  match graph.feeding? node "Vector" with
  | none => return .environment ⟨image, scale, none⟩
  | some mapping =>
    let rotation ← graph.coordinateRotation mapping
    return .environment ⟨image, scale, some rotation⟩

/-- A constant radiance, or no emission if it vanishes. -/
def constantRadiance (base : Color) (strength : Float) : Translation (Background Image) := do
  let radiance := base.scale strength
  if radiance.sum == 0 then
    Translation.report .zeroRadiance
    return darkBackground
  else return .constant radiance

/-- The background of a node that feeds the output of a world, with the strength that it has. -/
def emittedBackground (graph : Graph) (node : ShadingNode) (strength : Float) :
    Translation (Background Image) := do
  let socket ← node.getInput "Color"
  match graph.upstream? socket with
  | none => constantRadiance (← socket.getColor) strength
  | some source =>
    match source.kind with
    | .environmentTexture => graph.envmap source strength
    | .rgb => constantRadiance (← source.constantColor) strength
    | kind => Translation.fail (.unsupportedNode kind .worldColor)

/-- The background of a node that feeds the output of a world. Its strength is looked at before
its kind. -/
def surfaceBackground (graph : Graph) (node : ShadingNode) : Translation (Background Image) := do
  let socket ← node.getInput "Strength"
  if socket.isLinked then
    Translation.fail (.unsupportedFeature .linkedEmitterStrength)
  else
    let strength ← socket.getNumber
    if strength == 0 then
      Translation.report .zeroStrength
      return darkBackground
    else if node.kind = .background || node.kind = .emission then
      graph.emittedBackground node strength
    else Translation.fail (.unsupportedNode node.kind .world)

/-- The background of a world's graph. -/
def background (graph : Graph) : Translation (Background Image) :=
  match graph.output? with
  | none => do
    Translation.report .worldWithoutOutput
    return darkBackground
  | some output =>
    match graph.feeding? output "Surface" with
    | none => return darkBackground
    | some node => graph.surfaceBackground node

end Graph

namespace World

/-- The background of a world, or why it has none. -/
def background (world : World) : Translation (Background Image) :=
  match world.activeTree? with
  | some tree => do (← Graph.ofTree tree).background
  | none =>
    match world.color.color? with
    | some color => return .constant color
    | none => Translation.fail (.invalidLiteral "world color" .color)

end World

/-- The background of an optional world. A failure is reported and replaced by a constant. -/
def translateWorld : Option World → Settled (Background Image)
  | none => ⟨[.report .noWorld], darkBackground⟩
  | some world => world.background.settle fun error => (.worldFailed error, fallbackBackground)

end ShadingExport
