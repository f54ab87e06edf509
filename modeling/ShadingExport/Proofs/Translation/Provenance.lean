import ShadingExport.Proofs.Graph.Mixing

/-!
# Where the files of a record come from

Every file in a record stands at the end of a chain of inputs that can be read off the record alone
(`MaterialRecord.references`): the fields of a material are those of one node, a blend leads to the
two sides of a mixture, and perturbed normals stay at their node. In the graph the same chain leads
from the surface node to the texture that the file was translated from (`Graph.Samples`). A node of
smooth glass asks for the texture of its roughness and has no use for it (`Graph.Discards`).
-/

namespace ShadingExport

variable {τ : Type}

/-! ## Chains of inputs in a record -/

/-- A file in a record with the inputs that lead to it, from the surface node on. -/
structure Reference (τ : Type) where
  /-- The names of the inputs. -/
  inputs : List String
  /-- The file. -/
  file : τ

/-- References to files that come from one input of a node. -/
def referencesAt (input : String) (files : List τ) : List (Reference τ) :=
  files.map fun file => ⟨[input], file⟩

/-- References of the node behind an input, as seen from the node that has the input. -/
def referencesThrough (input : String) (references : List (Reference τ)) : List (Reference τ) :=
  references.map fun reference => ⟨input :: reference.inputs, reference.file⟩

@[simp] theorem map_file_referencesAt (input : String) (files : List τ) :
    (referencesAt input files).map Reference.file = files := by
  simp [referencesAt, Function.comp_def]

@[simp] theorem map_file_referencesThrough (input : String) (references : List (Reference τ)) :
    (referencesThrough input references).map Reference.file =
      references.map Reference.file := by
  simp [referencesThrough, Function.comp_def]

/-- The files in a record, at any depth, with the inputs that lead to them. -/
def MaterialRecord.references : MaterialRecord τ → List (Reference τ)
  | ⟨_, .lambertian albedo⟩ => referencesAt "Color" (optionalFiles albedo)
  | ⟨_, .roughConductor roughness _ color⟩ =>
    referencesAt roughnessName roughness.files ++ referencesAt "Color" color.files
  | ⟨_, .conductor color⟩ => referencesAt "Color" color.files
  | ⟨_, .blinnPhong _ _ albedo⟩ => referencesAt "Color" albedo.files
  | ⟨_, .phong _ _ albedo⟩ => referencesAt "Color" albedo.files
  | ⟨_, .metal roughness albedo⟩ =>
    referencesAt roughnessName roughness.files ++ referencesAt "Color" albedo.files
  | ⟨_, .dielectric _ transmittance⟩ => referencesAt "Color" (optionalFiles transmittance)
  | ⟨_, .thinDielectric _ transmittance⟩ => referencesAt "Color" (optionalFiles transmittance)
  | ⟨_, .roughDielectric roughness _ _ transmittance⟩ =>
    referencesAt roughnessName roughness.files ++ referencesAt "Color" (optionalFiles transmittance)
  | ⟨_, .diffuseLight _⟩ => []
  | ⟨_, .blend amount first second⟩ =>
    referencesAt "Fac" amount.files ++ referencesThrough "Shader" first.references ++
      referencesThrough "Shader_001" second.references
  -- The record under perturbed normals is that of the same node.
  | ⟨_, .normalMap normals _ nested⟩ => referencesAt "Normal" normals.files ++ nested.references

/-- The references of a record are its files, in order. -/
theorem MaterialRecord.map_file_references :
    ∀ record : MaterialRecord τ, record.references.map Reference.file = record.files
  | ⟨_, .lambertian _⟩ => by simp [references, files]
  | ⟨_, .roughConductor ..⟩ => by simp [references, files]
  | ⟨_, .conductor _⟩ => by simp [references, files]
  | ⟨_, .blinnPhong ..⟩ => by simp [references, files]
  | ⟨_, .phong ..⟩ => by simp [references, files]
  | ⟨_, .metal ..⟩ => by simp [references, files]
  | ⟨_, .dielectric ..⟩ => by simp [references, files]
  | ⟨_, .thinDielectric ..⟩ => by simp [references, files]
  | ⟨_, .roughDielectric ..⟩ => by simp [references, files]
  | ⟨_, .diffuseLight _⟩ => rfl
  | ⟨_, .blend _ first second⟩ => by
    simp [references, files, map_file_references first, map_file_references second]
  | ⟨_, .normalMap _ _ nested⟩ => by simp [references, files, map_file_references nested]

/-! ## Chains of inputs in a graph -/

/-- The node is a texture of the image. -/
def ShadingNode.IsTextureOf (node : ShadingNode) (image : Image) : Prop :=
  node.kind = .imageTexture ∧ node.image = some image

namespace Graph

variable {graph : Graph} {node : ShadingNode} {image : Image}

/-- The node that a chain of inputs leads to. -/
def follow? (graph : Graph) (node : ShadingNode) : List String → Option ShadingNode
  | [] => some node
  | input :: inputs => (graph.feeding? node input).bind fun source => graph.follow? source inputs

/-- A node shows an image: it is a texture of the image, or a normal map whose color is one. -/
def Shows (graph : Graph) (node : ShadingNode) (image : Image) : Prop :=
  node.IsTextureOf image ∨
    node.kind = .normalMap ∧
      ∃ texture, graph.feeding? node "Color" = some texture ∧ texture.IsTextureOf image

/-- A chain of inputs leads from a node to one that shows an image. -/
def Samples (graph : Graph) (node : ShadingNode) (inputs : List String) (image : Image) : Prop :=
  ∃ source, graph.follow? node inputs = some source ∧ graph.Shows source image

/-- The node is of smooth glass, and a texture of the image feeds its roughness. -/
def Drops (graph : Graph) (node : ShadingNode) (image : Image) : Prop :=
  node.kind = .glass ∧ node.distribution = .ok .sharp ∧
    ∃ texture, graph.feeding? node roughnessName = some texture ∧ texture.IsTextureOf image

/-- The node is, or mixes, smooth glass whose roughness is fed by a texture of the image. -/
def Discards (graph : Graph) (node : ShadingNode) (image : Image) : Prop :=
  ∃ glass, Relation.ReflTransGen graph.Mixes node glass ∧ graph.Drops glass image

/-- What an input samples is shown by the node that feeds it. -/
theorem samples_singleton {input : String} {source : ShadingNode}
    (hsource : graph.feeding? node input = some source) (h : graph.Shows source image) :
    graph.Samples node [input] image :=
  ⟨source, by rw [follow?, hsource]; rfl, h⟩

/-- What a node samples is sampled, one input further, by the node that it feeds. -/
theorem Samples.cons {input : String} {inputs : List String} {source : ShadingNode}
    (hsource : graph.feeding? node input = some source) (h : graph.Samples source inputs image) :
    graph.Samples node (input :: inputs) image := by
  obtain ⟨last, hlast, hshows⟩ := h
  refine ⟨last, ?_, hshows⟩
  rw [follow?, hsource]
  exact hlast

/-- What a side of a mixture discards is discarded by the mixture. -/
theorem Discards.of_mixes {side : ShadingNode} (hside : graph.Mixes node side)
    (h : graph.Discards side image) : graph.Discards node image := by
  obtain ⟨glass, hpath, hdrops⟩ := h
  exact ⟨glass, .head hside hpath, hdrops⟩

/-- The node behind the socket of an input feeds the input. -/
theorem feeding?_of_upstream? {input : String} {socket : Socket} {source : ShadingNode}
    (hsocket : node.input? input = some socket) (hsource : graph.upstream? socket = some source) :
    graph.feeding? node input = some source := by
  rw [feeding?, hsocket]
  exact hsource

end Graph

end ShadingExport
