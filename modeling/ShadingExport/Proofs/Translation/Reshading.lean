import ShadingExport.Proofs.Surface.Locality
import ShadingExport.Translation.World

/-!
# Changes to shaders

A shader is a node that only mixtures and outputs lead to. What feeds a socket of numbers or colors
is never one: there a shader counts for its kind alone, as the wrong one. So a change of nodes that
leaves ids, kinds and all nodes but shaders as they are (`Graph.Reshades`) goes unnoticed by
everything that reads sockets, and a translation of the changed graph is one that changes the sides
of mixtures on the way (`Graph.Reshades.surfaceStep_eq`). If no changed shader makes a difference on
its own, none makes one anywhere: not at any place of a tree of mixtures
(`Graph.Reshades.surface_eq`), and not as the surface of a world (`Graph.Reshades.background_eq`).
-/

namespace ShadingExport

open Translation

/-- The kinds of nodes that give light, and not a number or a color. -/
def NodeKind.IsShader : NodeKind → Prop
  | .diffuse | .glossy | .glass | .emission | .background => True
  | _ => False

namespace Graph

/-- The graph with every node changed. -/
def mapNodes (graph : Graph) (change : ShadingNode → ShadingNode) : Graph :=
  ⟨graph.nodes.map change⟩

/-- The change leaves ids and kinds as they are, and of the nodes of the graph all but the
shaders. -/
structure Reshades (graph : Graph) (change : ShadingNode → ShadingNode) : Prop where
  /-- The ids stay. -/
  id_eq : ∀ node, (change node).id = node.id
  /-- The kinds stay. -/
  kind_eq : ∀ node, (change node).kind = node.kind
  /-- Other nodes than shaders stay. -/
  fixed : ∀ node ∈ graph.nodes, ¬ node.kind.IsShader → change node = node

variable {graph : Graph} {change : ShadingNode → ShadingNode} {node : ShadingNode}
  {mode : GlossyMode}

theorem size_mapNodes : (graph.mapNodes change).size = graph.size := List.length_map _

namespace Reshades

variable (h : graph.Reshades change)
include h

/-! ## Sockets -/

/-- An id leads to the changed node. -/
theorem node?_eq (id : String) :
    (graph.mapNodes change).node? id = (graph.node? id).map change := by
  show (graph.nodes.map change).find? (·.id == id) = _
  rw [List.find?_map]
  have hids : ((·.id == id) ∘ change) = fun node : ShadingNode => node.id == id :=
    funext fun node => by rw [Function.comp_apply, h.id_eq]
  rw [hids]
  rfl

/-- A socket is fed by the changed node. -/
theorem upstream?_eq (socket : Socket) :
    (graph.mapNodes change).upstream? socket = (graph.upstream? socket).map change := by
  rw [upstream?, upstream?, Option.map_bind]
  simp only [h.node?_eq]
  rfl

theorem feeding?_eq (name : String) :
    (graph.mapNodes change).feeding? node name = (graph.feeding? node name).map change := by
  rw [feeding?, feeding?, Option.map_bind]
  simp only [h.upstream?_eq]
  rfl

/-- A node of a kind that is no shader stays. -/
theorem eq_of_kind (hnode : node ∈ graph.nodes) {kind : NodeKind} (hkind : node.kind = kind)
    (hshader : ¬ kind.IsShader) : change node = node :=
  h.fixed node hnode (hkind ▸ hshader)

theorem scalar_eq (socket : Socket) :
    (graph.mapNodes change).scalar socket = graph.scalar socket := by
  unfold scalar
  rw [h.upstream?_eq]
  cases hsource : graph.upstream? socket with
  | none => rfl
  | some source =>
    have hmem := mem_nodes_of_upstream? hsource
    simp only [Option.map_some, h.kind_eq]
    split
    · next hkind => rw [h.eq_of_kind hmem hkind not_false]
    · next hkind => rw [h.eq_of_kind hmem hkind not_false]
    · rfl

/-- Of what feeds a normal map, the image counts, or the kind. -/
theorem tangentNormals_eq (node : ShadingNode) :
    (graph.mapNodes change).tangentNormals node = graph.tangentNormals node := by
  unfold tangentNormals
  refine if_congr Iff.rfl rfl (bind_congr_ok fun socket _ => ?_)
  rw [h.upstream?_eq]
  cases hsource : graph.upstream? socket with
  | none => rfl
  | some source =>
    simp only [Option.map_some, h.kind_eq]
    split
    · next hkind => rw [h.eq_of_kind (mem_nodes_of_upstream? hsource) hkind not_false]
    · rfl

theorem color_eq (socket : Socket) :
    (graph.mapNodes change).color socket = graph.color socket := by
  unfold color
  rw [h.upstream?_eq]
  cases hsource : graph.upstream? socket with
  | none => rfl
  | some source =>
    have hmem := mem_nodes_of_upstream? hsource
    simp only [Option.map_some, h.kind_eq]
    split
    · next hkind => rw [h.eq_of_kind hmem hkind not_false]
    · next hkind => rw [h.eq_of_kind hmem hkind not_false, h.tangentNormals_eq]
    · next hkind => rw [h.eq_of_kind hmem hkind not_false]
    · rfl

theorem normalStrength_eq (socket : Socket) :
    (graph.mapNodes change).normalStrength socket = graph.normalStrength socket := by
  unfold normalStrength
  rw [h.upstream?_eq]
  cases hsource : graph.upstream? socket with
  | none => rfl
  | some source =>
    simp only [Option.map_some, h.kind_eq]
    split
    · next hkind => rw [h.eq_of_kind (mem_nodes_of_upstream? hsource) hkind not_false]
    · rfl

/-! ## Surfaces -/

theorem optionalColor_eq (name : String) :
    (graph.mapNodes change).optionalColor node name = graph.optionalColor node name := by
  unfold optionalColor
  simp only [h.color_eq]

theorem roughness_eq : (graph.mapNodes change).roughness node = graph.roughness node := by
  unfold roughness
  simp only [h.scalar_eq]

/-- The sides of a mixture are the changed ones. -/
theorem blend_eq (side : ShadingNode → Translation (MaterialRecord Image)) :
    (graph.mapNodes change).blend side node =
      graph.blend (fun child => side (change child)) node := by
  unfold blend
  rw [h.feeding?_eq, h.feeding?_eq]
  cases graph.feeding? node "Shader" with
  | none => rfl
  | some first =>
    cases graph.feeding? node "Shader_001" with
    | none => rfl
    | some second => simp only [Option.map_some, h.scalar_eq]

theorem material_eq (side : ShadingNode → Translation (MaterialRecord Image)) :
    (graph.mapNodes change).material mode side node =
      graph.material mode (fun child => side (change child)) node := by
  unfold material
  split
  · rw [diffuse, diffuse, h.optionalColor_eq]
  · exact glossy_congr (fun socket _ => h.color_eq socket) h.roughness_eq mode
  · rw [glass, glass, h.roughness_eq, h.optionalColor_eq]
  · rfl
  · exact h.blend_eq side
  · rfl

theorem perturbed_eq (record : MaterialRecord Image) :
    (graph.mapNodes change).perturbed node record = graph.perturbed node record := by
  unfold perturbed withNormals
  simp only [h.color_eq, h.normalStrength_eq]

/-- **A step in the changed graph is one in the graph itself**, with the sides changed. -/
theorem surfaceStep_eq (side : ShadingNode → Translation (MaterialRecord Image))
    (name : Option String) :
    (graph.mapNodes change).surfaceStep mode side node name =
      graph.surfaceStep mode (fun child => side (change child)) node name := by
  unfold surfaceStep
  simp only [h.material_eq, h.perturbed_eq]

/-- Changes that go unnoticed in every step go unnoticed under every bound. -/
theorem surfaceWithin_eq
    (hstep : ∀ node ∈ graph.nodes, ∀ side name,
      graph.surfaceStep mode side (change node) name = graph.surfaceStep mode side node name)
    (depth : ℕ) (hnode : node ∈ graph.nodes) (name : Option String) :
    (graph.mapNodes change).surfaceWithin mode depth (change node) name =
      graph.surfaceWithin mode depth node name := by
  -- Induction on the bound: a side of a mixture is again a node of the graph, and changed.
  induction depth generalizing node name with
  | zero => rfl
  | succ depth ih =>
    calc (graph.mapNodes change).surfaceWithin mode (depth + 1) (change node) name
        = graph.surfaceStep mode
            (fun child => (graph.mapNodes change).surfaceWithin mode depth (change child) none)
            (change node) name := h.surfaceStep_eq _ name
      _ = graph.surfaceStep mode
            (fun child => (graph.mapNodes change).surfaceWithin mode depth (change child) none)
            node name := hstep node hnode _ name
      _ = graph.surfaceWithin mode (depth + 1) node name :=
          surfaceStep_congr (fun child hchild => ih hchild.mem_nodes none) name

/-- **What goes unnoticed in every step goes unnoticed** wherever the changed nodes stand. -/
theorem surface_eq
    (hstep : ∀ node ∈ graph.nodes, ∀ side name,
      graph.surfaceStep mode side (change node) name = graph.surfaceStep mode side node name)
    (hnode : node ∈ graph.nodes) (name : Option String) :
    (graph.mapNodes change).surface mode (change node) name = graph.surface mode node name := by
  rw [surface, size_mapNodes]
  exact h.surfaceWithin_eq hstep graph.size hnode name

/-! ## Worlds -/

/-- A mapping, and the texture coordinates that feed it, are no shaders. -/
theorem coordinateRotation_eq {mapping : ShadingNode} (hmapping : mapping ∈ graph.nodes) :
    (graph.mapNodes change).coordinateRotation (change mapping) =
      graph.coordinateRotation mapping := by
  unfold coordinateRotation
  rw [h.kind_eq]
  by_cases hkind : mapping.kind = .mapping
  · rw [if_neg (not_not_intro hkind), if_neg (not_not_intro hkind),
      h.eq_of_kind hmapping hkind not_false]
    have hcoordinates : (graph.mapNodes change).checkCoordinates mapping =
        graph.checkCoordinates mapping := by
      unfold checkCoordinates
      cases (mapping.input? "Vector").bind Socket.link with
      | none => rfl
      | some link =>
        simp only [h.node?_eq]
        cases graph.node? link.node with
        | none => rfl
        | some source => simp only [Option.map_some, h.kind_eq]
    rw [hcoordinates]
  · rw [if_pos hkind, if_pos hkind]

theorem envmap_eq (texture : ShadingNode) (scale : Float) :
    (graph.mapNodes change).envmap texture scale = graph.envmap texture scale := by
  unfold envmap
  refine bind_congr_ok fun image _ => bind_congr_ok fun _ _ => ?_
  rw [h.feeding?_eq]
  cases hmapping : graph.feeding? texture "Vector" with
  | none => rfl
  | some mapping =>
    simp only [Option.map_some, h.coordinateRotation_eq (mem_nodes_of_feeding? hmapping)]

theorem emittedBackground_eq (strength : Float) :
    (graph.mapNodes change).emittedBackground node strength =
      graph.emittedBackground node strength := by
  unfold emittedBackground
  refine bind_congr_ok fun socket _ => ?_
  rw [h.upstream?_eq]
  cases hsource : graph.upstream? socket with
  | none => rfl
  | some source =>
    have hmem := mem_nodes_of_upstream? hsource
    simp only [Option.map_some, h.kind_eq]
    split
    · next hkind => rw [h.eq_of_kind hmem hkind not_false, h.envmap_eq]
    · next hkind => rw [h.eq_of_kind hmem hkind not_false]
    · rfl

theorem surfaceBackground_eq :
    (graph.mapNodes change).surfaceBackground node = graph.surfaceBackground node := by
  unfold surfaceBackground
  simp only [h.emittedBackground_eq]

/-- Outputs are no shaders. -/
theorem output?_eq : (graph.mapNodes change).output? = graph.output? := by
  have houtputs : (graph.mapNodes change).outputs = graph.outputs := by
    show (graph.nodes.map change).filter (·.kind == .output) = _
    have hkinds : ((·.kind == .output) ∘ change) =
        fun node : ShadingNode => node.kind == .output :=
      funext fun node => by rw [Function.comp_apply, h.kind_eq]
    rw [List.filter_map, hkinds]
    refine (List.map_congr_left fun node hnode => ?_).trans (List.map_id _)
    obtain ⟨hmem, hkind⟩ := List.mem_filter.mp hnode
    exact h.eq_of_kind hmem (beq_iff_eq.mp hkind) not_false
  unfold output?
  rw [houtputs]

/-- **A change that goes unnoticed in the surface of a world goes unnoticed.** -/
theorem background_eq
    (hsurface : ∀ node, graph.surfaceNode = .ok node →
      graph.surfaceBackground (change node) = graph.surfaceBackground node) :
    (graph.mapNodes change).background = graph.background := by
  unfold background
  rw [h.output?_eq]
  cases houtput : graph.output? with
  | none => rfl
  | some output =>
    simp only [h.feeding?_eq]
    cases hnode : graph.feeding? output "Surface" with
    | none => rfl
    | some node =>
      show (graph.mapNodes change).surfaceBackground (change node) = graph.surfaceBackground node
      rw [h.surfaceBackground_eq]
      exact hsurface node (surfaceNode_eq_ok.mpr ⟨output, houtput, hnode⟩)

end Reshades

end Graph

end ShadingExport
