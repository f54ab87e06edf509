import ShadingExport.Proofs.Graph.Mixing
import ShadingExport.Proofs.Translation.Success

/-!
# What a translation reads of its graph

A translation visits nodes along links and reads nothing else. So a graph that is embedded in a
larger one, with every input fed as before (`Graph.EmbedsIn`), gives the same translations there,
event by event (`Graph.EmbedsIn.surface_eq`). The statement is put together translator by
translator; a mixture needs it for its sides.
-/

namespace ShadingExport

open Translation

namespace Graph

variable {graph larger : Graph} {mode : GlossyMode} {node : ShadingNode}

/-- Every input of a node of the graph is fed by the same node in a larger graph. -/
def EmbedsIn (graph larger : Graph) : Prop :=
  ∀ node ∈ graph.nodes, ∀ name socket, node.input? name = some socket →
    larger.upstream? socket = graph.upstream? socket

/-- The surface node is what feeds the surface of the output. -/
theorem surfaceNode_eq_ok :
    graph.surfaceNode = .ok node ↔
      ∃ output, graph.output? = some output ∧ graph.feeding? output "Surface" = some node := by
  unfold surfaceNode
  cases graph.output? with
  | none => simp
  | some output =>
    simp only [Option.some.injEq, exists_eq_left']
    cases graph.feeding? output "Surface" <;> simp

theorem mem_nodes_of_surfaceNode (h : graph.surfaceNode = .ok node) : node ∈ graph.nodes := by
  obtain ⟨output, -, hnode⟩ := surfaceNode_eq_ok.mp h
  exact mem_nodes_of_feeding? hnode

section Sockets

variable {socket : Socket} (h : larger.upstream? socket = graph.upstream? socket)
include h

theorem scalar_congr : larger.scalar socket = graph.scalar socket := by
  unfold scalar
  rw [h]

theorem normalStrength_congr : larger.normalStrength socket = graph.normalStrength socket := by
  unfold normalStrength
  rw [h]

end Sockets

/-- A glossy surface reads its color and, in two of the modes, its roughness. -/
theorem glossy_congr (hcolor : ∀ socket, node.input? "Color" = some socket →
      larger.color socket = graph.color socket)
    (hroughness : larger.roughness node = graph.roughness node) (mode : GlossyMode) :
    larger.glossy mode node = graph.glossy mode node := by
  unfold glossy
  refine bind_congr_ok fun distribution _ => bind_congr_ok fun color hinput => ?_
  have halbedo := hcolor color (ShadingNode.getInput_eq_ok.mp hinput)
  cases mode with
  | roughConductor =>
    cases distribution.microfacet? <;> simp only [glossyConductor, halbedo, hroughness]
  | metal => cases distribution.microfacet? <;> simp only [glossyMetal, halbedo, hroughness]
  | blinnPhong => simp only [glossyExponent, halbedo]
  | phong => simp only [glossyExponent, halbedo]

namespace EmbedsIn

variable (h : graph.EmbedsIn larger) (hnode : node ∈ graph.nodes)
include h hnode

theorem feeding?_eq (name : String) : larger.feeding? node name = graph.feeding? node name := by
  unfold feeding?
  cases hsocket : node.input? name with
  | none => rfl
  | some socket => exact h node hnode name socket hsocket

theorem tangentNormals_eq : larger.tangentNormals node = graph.tangentNormals node := by
  unfold tangentNormals
  refine if_congr Iff.rfl rfl (bind_congr_ok fun socket hsocket => ?_)
  rw [h node hnode "Color" socket (ShadingNode.getInput_eq_ok.mp hsocket)]

/-- The color of an input: a normal map that feeds it is itself a node of the graph. -/
theorem color_eq {name : String} {socket : Socket} (hsocket : node.input? name = some socket) :
    larger.color socket = graph.color socket := by
  unfold color
  rw [h node hnode name socket hsocket]
  cases hsource : graph.upstream? socket with
  | none => rfl
  | some source =>
    dsimp only
    split
    · rfl
    · exact h.tangentNormals_eq (mem_nodes_of_upstream? hsource)
    · rfl
    · rfl

theorem optionalColor_eq (name : String) :
    larger.optionalColor node name = graph.optionalColor node name := by
  unfold optionalColor
  split
  · rfl
  · next socket hsocket => rw [h.color_eq hnode hsocket]

theorem roughness_eq : larger.roughness node = graph.roughness node :=
  bind_congr_ok fun socket hsocket =>
    scalar_congr (h node hnode _ socket (ShadingNode.getInput_eq_ok.mp hsocket))

theorem blend_eq (side : ShadingNode → Translation (MaterialRecord Image)) :
    larger.blend side node = graph.blend side node := by
  unfold blend
  rw [h.feeding?_eq hnode, h.feeding?_eq hnode]
  cases graph.feeding? node "Shader" with
  | none => rfl
  | some first =>
    cases graph.feeding? node "Shader_001" with
    | none => rfl
    | some second =>
      refine bind_congr_ok fun fac hfac => ?_
      rw [scalar_congr (h node hnode _ fac (ShadingNode.getInput_eq_ok.mp hfac))]

theorem material_eq (side : ShadingNode → Translation (MaterialRecord Image)) :
    larger.material mode side node = graph.material mode side node := by
  unfold material
  split
  · rw [diffuse, diffuse, h.optionalColor_eq hnode]
  · exact glossy_congr (fun _ hsocket => h.color_eq hnode hsocket) (h.roughness_eq hnode) mode
  · rw [glass, glass, h.roughness_eq hnode, h.optionalColor_eq hnode]
  · rfl
  · exact h.blend_eq hnode side
  · rfl

theorem perturbed_eq (record : MaterialRecord Image) :
    larger.perturbed node record = graph.perturbed node record := by
  unfold perturbed
  split
  · next normal hnormal =>
    rw [withNormals, withNormals, h.color_eq hnode hnormal,
      normalStrength_congr (h node hnode _ normal hnormal)]
  · rfl

theorem surfaceStep_eq (side : ShadingNode → Translation (MaterialRecord Image))
    (name : Option String) :
    larger.surfaceStep mode side node name = graph.surfaceStep mode side node name := by
  unfold surfaceStep
  rw [h.material_eq hnode]
  simp only [h.perturbed_eq hnode]

/-- Under one bound, a node is translated alike in both graphs. -/
theorem surfaceWithin_eq (depth : Nat) (name : Option String) :
    larger.surfaceWithin mode depth node name = graph.surfaceWithin mode depth node name := by
  -- Induction on the bound: the sides of a mixture are nodes of the graph again.
  induction depth generalizing node name with
  | zero => rfl
  | succ depth ih =>
    exact (h.surfaceStep_eq hnode _ name).trans
      (surfaceStep_congr (fun side hside => ih hside.mem_nodes none) name)

/-- **A translation reads only what it reaches**: a node is translated in a larger graph as in its
own, where mixtures do not contain themselves. -/
theorem surface_eq (hacyclic : graph.MixAcyclic) (hsize : graph.size ≤ larger.size)
    (name : Option String) : larger.surface mode node name = graph.surface mode node name := by
  -- The bound of the larger graph is larger; the acyclic one does not notice.
  rw [surface, h.surfaceWithin_eq hnode]
  exact surfaceWithin_eq_surface hacyclic hnode ((graph.mixReach_le_size node).trans hsize) name

end EmbedsIn

end Graph

end ShadingExport
