import ShadingExport.Graph.Basic
import ShadingExport.Settings

/-!
# The grammar of supported surfaces

Which nodes translate is a grammar over the graph: `Graph.GivesNumber` and `Graph.GivesColor` say
what may feed a socket, `Graph.NormalSupported` what may perturb the normals of a node, and
`Graph.Supported` is the least predicate that the five kinds of surfaces generate from them. A
socket gives what it holds if it has no link; through a link, the node at its other end decides.
-/

namespace ShadingExport

/-! ## The grammar -/

/-- The socket holds a number, linked or not. -/
def Socket.HoldsNumber (socket : Socket) : Prop := ∃ value, socket.default = some (.scalar value)

/-- The socket holds a literal that has a color, linked or not. -/
def Socket.HoldsColor (socket : Socket) : Prop :=
  ∃ literal, socket.default = some literal ∧ ∀ value, literal ≠ .matrix value

namespace ShadingNode

/-- The node samples an image. -/
def SamplesImage (node : ShadingNode) : Prop := node.kind = .imageTexture ∧ node.image.isSome

/-- The host name of the microfacet distribution. -/
def distributionName (node : ShadingNode) : String :=
  (node.attributeText? "distribution").getD "GGX"

/-- The node names a distribution that the renderer knows. -/
def HasDistribution (node : ShadingNode) : Prop :=
  node.distributionName ∈ ["SHARP", "GGX", "BECKMANN", "ASHIKHMIN_SHIRLEY", "MULTI_GGX"]

/-- The node has an index of refraction; a link to it does not matter. -/
def HasIor (node : ShadingNode) : Prop :=
  ∃ socket, node.input? "IOR" = some socket ∧ socket.HoldsNumber

/-- The node has a constant color among its attributes. -/
def HasConstantColor (node : ShadingNode) : Prop :=
  ∃ literal, node.attributeLiteral? "color" = some literal ∧ ∀ value, literal ≠ .matrix value

/-- The node has an unlinked input that holds a number. -/
def LiteralNumber (node : ShadingNode) (name : String) : Prop :=
  ∃ socket, node.input? name = some socket ∧ socket.link = none ∧ socket.HoldsNumber

/-- The node has an unlinked input that holds a color. -/
def LiteralColor (node : ShadingNode) (name : String) : Prop :=
  ∃ socket, node.input? name = some socket ∧ socket.link = none ∧ socket.HoldsColor

end ShadingNode

namespace Graph

/-- The node maps normals in tangent space, and a texture feeds it. -/
def MapsTangentNormals (graph : Graph) (node : ShadingNode) : Prop :=
  (node.attributeText? "space").getD "TANGENT" = "TANGENT" ∧
    ∃ socket, node.input? "Color" = some socket ∧
      ∃ texture, graph.upstream? socket = some texture ∧ texture.SamplesImage

/-- What may feed a socket that a number is read from. -/
inductive GivesNumber (graph : Graph) (socket : Socket) : Prop
  /-- A number stored at an unlinked socket. -/
  | literal (hlink : socket.link = none) (hnumber : socket.HoldsNumber)
  /-- A texture. -/
  | texture {source : ShadingNode} (hsource : graph.upstream? socket = some source)
      (himage : source.SamplesImage)
  /-- A Fresnel factor. -/
  | fresnel {source : ShadingNode} (hsource : graph.upstream? socket = some source)
      (hkind : source.kind = .fresnel) (hior : source.HasIor)

/-- What may feed a socket that a color is read from. -/
inductive GivesColor (graph : Graph) (socket : Socket) : Prop
  /-- A color stored at an unlinked socket. -/
  | literal (hlink : socket.link = none) (hcolor : socket.HoldsColor)
  /-- A texture. -/
  | texture {source : ShadingNode} (hsource : graph.upstream? socket = some source)
      (himage : source.SamplesImage)
  /-- A constant color. -/
  | rgb {source : ShadingNode} (hsource : graph.upstream? socket = some source)
      (hkind : source.kind = .rgb) (hcolor : source.HasConstantColor)
  /-- The texture of a normal map. -/
  | normalMap {source : ShadingNode} (hsource : graph.upstream? socket = some source)
      (hkind : source.kind = .normalMap) (hnormals : graph.MapsTangentNormals source)

/-- The node has an input that a number can be read from. -/
def NumberInput (graph : Graph) (node : ShadingNode) (name : String) : Prop :=
  ∃ socket, node.input? name = some socket ∧ graph.GivesNumber socket

/-- The node has an input that a color can be read from. -/
def ColorInput (graph : Graph) (node : ShadingNode) (name : String) : Prop :=
  ∃ socket, node.input? name = some socket ∧ graph.GivesColor socket

/-- A color can be read from the input, if the node has it. -/
def OptionalColorInput (graph : Graph) (node : ShadingNode) (name : String) : Prop :=
  ∀ socket, node.input? name = some socket → graph.GivesColor socket

/-- What may perturb the normals of a node: nothing, or something that gives a color and, if it is
a normal map, has a literal strength. -/
def NormalSupported (graph : Graph) (node : ShadingNode) : Prop :=
  ∀ normal, node.input? "Normal" = some normal → normal.link ≠ none →
    graph.GivesColor normal ∧
      ∀ source, graph.upstream? normal = some source → source.kind = .normalMap →
        source.LiteralNumber "Strength"

/-- The roughness that a glossy node needs: a number unless the reflection is sharp, and a literal
number in any case where an exponent is made of it. -/
def GlossyRoughness (graph : Graph) (node : ShadingNode) : GlossyMode → Prop
  | .roughConductor => node.distributionName = "SHARP" ∨ graph.NumberInput node "Roughness"
  | .metal => node.distributionName = "SHARP" ∨ graph.NumberInput node "Roughness"
  | .blinnPhong => node.LiteralNumber "Roughness"
  | .phong => node.LiteralNumber "Roughness"

/-- The nodes that translate to a surface. -/
inductive Supported (graph : Graph) (mode : GlossyMode) : ShadingNode → Prop
  /-- A diffuse surface. -/
  | diffuse {node : ShadingNode} (hkind : node.kind = .diffuse)
      (hcolor : graph.OptionalColorInput node "Color") (hnormal : graph.NormalSupported node) :
      Supported graph mode node
  /-- A glossy surface. -/
  | glossy {node : ShadingNode} (hkind : node.kind = .glossy) (hdistribution : node.HasDistribution)
      (hcolor : graph.ColorInput node "Color") (hroughness : graph.GlossyRoughness node mode)
      (hnormal : graph.NormalSupported node) : Supported graph mode node
  /-- A refracting surface. -/
  | glass {node : ShadingNode} (hkind : node.kind = .glass) (hior : node.HasIor)
      (hroughness : graph.NumberInput node "Roughness") (hdistribution : node.HasDistribution)
      (hcolor : graph.OptionalColorInput node "Color") (hnormal : graph.NormalSupported node) :
      Supported graph mode node
  /-- An emitter. -/
  | emission {node : ShadingNode} (hkind : node.kind = .emission)
      (hstrength : node.LiteralNumber "Strength") (hcolor : node.LiteralColor "Color")
      (hnormal : graph.NormalSupported node) : Supported graph mode node
  /-- A mixture of two surfaces. -/
  | mix {node first second : ShadingNode} (hkind : node.kind = .mix)
      (hfirst : graph.feeding? node "Shader" = some first)
      (hsecond : graph.feeding? node "Shader_001" = some second)
      (hfac : graph.NumberInput node "Fac") (hsupported : Supported graph mode first)
      (hsupported' : Supported graph mode second) (hnormal : graph.NormalSupported node) :
      Supported graph mode node

end Graph

/-! ## What feeds a socket -/

namespace Graph

variable {graph : Graph}

/-- What gives a number through a link is decided by the node at its other end. -/
theorem givesNumber_iff_of_upstream? {socket : Socket} {source : ShadingNode}
    (hsource : graph.upstream? socket = some source) :
    graph.GivesNumber socket ↔
      source.SamplesImage ∨ source.kind = .fresnel ∧ source.HasIor := by
  constructor
  · rintro (⟨hlink, -⟩ | ⟨hsource', himage⟩ | ⟨hsource', hkind, hior⟩)
    · rw [upstream?, hlink] at hsource
      cases hsource
    · cases hsource.symm.trans hsource'
      exact .inl himage
    · cases hsource.symm.trans hsource'
      exact .inr ⟨hkind, hior⟩
  · rintro (himage | ⟨hkind, hior⟩)
    · exact .texture hsource himage
    · exact .fresnel hsource hkind hior

/-- What gives a color through a link is decided by the node at its other end. -/
theorem givesColor_iff_of_upstream? {socket : Socket} {source : ShadingNode}
    (hsource : graph.upstream? socket = some source) :
    graph.GivesColor socket ↔
      source.SamplesImage ∨ (source.kind = .rgb ∧ source.HasConstantColor) ∨
        source.kind = .normalMap ∧ graph.MapsTangentNormals source := by
  constructor
  · rintro (⟨hlink, -⟩ | ⟨hsource', himage⟩ | ⟨hsource', hkind, hcolor⟩ |
      ⟨hsource', hkind, hnormals⟩)
    · rw [upstream?, hlink] at hsource
      cases hsource
    · cases hsource.symm.trans hsource'
      exact .inl himage
    · cases hsource.symm.trans hsource'
      exact .inr (.inl ⟨hkind, hcolor⟩)
    · cases hsource.symm.trans hsource'
      exact .inr (.inr ⟨hkind, hnormals⟩)
  · rintro (himage | ⟨hkind, hcolor⟩ | ⟨hkind, hnormals⟩)
    · exact .texture hsource himage
    · exact .rgb hsource hkind hcolor
    · exact .normalMap hsource hkind hnormals

/-- An unlinked socket gives the number that it holds. -/
theorem givesNumber_iff_of_link_eq_none {socket : Socket} (hlink : socket.link = none) :
    graph.GivesNumber socket ↔ socket.HoldsNumber := by
  have hnone : graph.upstream? socket = none := by rw [upstream?, hlink, Option.bind_none]
  constructor
  · rintro (⟨-, hnumber⟩ | ⟨hsource, -⟩ | ⟨hsource, -⟩)
    · exact hnumber
    all_goals
      rw [hnone] at hsource
      cases hsource
  · exact .literal hlink

/-- An unlinked socket gives the color that it holds. -/
theorem givesColor_iff_of_link_eq_none {socket : Socket} (hlink : socket.link = none) :
    graph.GivesColor socket ↔ socket.HoldsColor := by
  have hnone : graph.upstream? socket = none := by rw [upstream?, hlink, Option.bind_none]
  constructor
  · rintro (⟨-, hcolor⟩ | ⟨hsource, -⟩ | ⟨hsource, -⟩ | ⟨hsource, -⟩)
    · exact hcolor
    all_goals
      rw [hnone] at hsource
      cases hsource
  · exact .literal hlink

end Graph

end ShadingExport
