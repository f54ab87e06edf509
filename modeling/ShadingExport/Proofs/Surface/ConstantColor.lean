import ShadingExport.Proofs.Graph.Construction
import ShadingExport.Proofs.Graph.Replacement
import ShadingExport.Proofs.Translation.Reshading
import ShadingExport.Session.Basic

/-!
# Constant colors

A color may be linked to a constant color, and the host stores that one like a literal. Writing the
literal at the input instead of the link (`NodeTree.withLiteral`) changes nothing that is read of
the color (`Graph.ColoredBy.color_eq`): not in a diffuse, glossy or glass surface, in whichever of
its modes (`Graph.ColoredBy.surfaceStep_eq`), and not in the node that a world shines with
(`Graph.ColoredBy.surfaceBackground_eq`). Only a shader is changed by that, so the surfaces and the
world around it are translated as before (`Session.translations_withLiteral`).
-/

namespace ShadingExport

open Translation

namespace Graph

variable {graph : Graph} {node : ShadingNode} {literal : Literal}

/-- The color of a node is linked to a constant color, stored as a literal that is no matrix. -/
structure ColoredBy (graph : Graph) (node : ShadingNode) (literal : Literal) : Prop where
  /-- A constant color feeds the input and has the literal. -/
  linked : ∃ source, graph.feeding? node "Color" = some source ∧ source.kind = .rgb ∧
    source.attributeLiteral? "color" = some literal
  /-- The literal is a number or a tuple. -/
  not_matrix : ∀ value, literal ≠ .matrix value

/-! ## Changing one node -/

/-- The change of one shader's input to a literal is one of shaders. -/
theorem reshades_withLiteral (hnodup : (graph.nodes.map ShadingNode.id).Nodup)
    (hnode : node ∈ graph.nodes) (hshader : node.kind.IsShader) (name : String)
    (literal : Literal) :
    graph.Reshades fun other =>
      if other.id = node.id then other.withLiteral name literal else other where
  id_eq other := by
    split
    · rfl
    · rfl
  kind_eq other := by
    split
    · rfl
    · rfl
  fixed other hother hkind := by
    refine if_neg fun hid => hkind ?_
    rwa [List.inj_on_of_nodup_map hnodup hother hnode hid]

/-- The roughness is another input than the color. -/
theorem roughness_withLiteral :
    graph.roughness (node.withLiteral "Color" literal) = graph.roughness node := by
  unfold roughness
  rw [ShadingNode.getInput_withLiteral_of_ne _ _ _ (by decide)]

namespace ColoredBy

variable (h : graph.ColoredBy node literal)
include h

/-- The input exists, and one color is read both from what feeds it and from the literal. -/
theorem exists_color : ∃ socket color source, node.input? "Color" = some socket ∧
    (Socket.mk "Color" (some literal) none).getColor = .ok color ∧
    graph.upstream? socket = some source ∧ source.kind = .rgb ∧
    source.constantColor = .ok color := by
  obtain ⟨source, hfeeding, hkind, hliteral⟩ := h.linked
  obtain ⟨socket, hsocket, hsource⟩ := Option.bind_eq_some_iff.mp hfeeding
  obtain ⟨color, hcolor⟩ := Literal.exists_color?_eq_some_iff.mpr h.not_matrix
  have hdefault : (Socket.mk "Color" (some literal) none).getColor = .ok color :=
    Socket.getColor_eq_ok.mpr ⟨literal, rfl, hcolor⟩
  have hconstant : source.constantColor = .ok color :=
    ShadingNode.constantColor_eq_ok.mpr ⟨literal, hliteral, hcolor⟩
  exact ⟨socket, color, source, hsocket, hdefault, hsource, hkind, hconstant⟩

/-- **The literal is read like the link**: both give one color, and nothing is reported. -/
theorem color_eq {socket : Socket} (hsocket : node.input? "Color" = some socket) :
    graph.color ⟨"Color", some literal, none⟩ = graph.color socket := by
  obtain ⟨_, color, source, hsocket', hdefault, hsource, hkind, hconstant⟩ := h.exists_color
  cases hsocket.symm.trans hsocket'
  calc graph.color ⟨"Color", some literal, none⟩
      = ofExcept (Socket.mk "Color" (some literal) none).getColor >>= fun color =>
          pure (.constant color) := rfl
    _ = pure (.constant color) := by rw [hdefault, ofExcept_ok_bind]
    _ = ofExcept source.constantColor >>= fun color => pure (.constant color) := by
        rw [hconstant, ofExcept_ok_bind]
    _ = graph.color socket := by
        rw [Graph.color, hsource]
        simp only [hkind, liftM_except]

/-! ## Surfaces -/

theorem optionalColor_eq :
    graph.optionalColor (node.withLiteral "Color" literal) "Color" =
      graph.optionalColor node "Color" := by
  obtain ⟨socket, _, _, hsocket, -⟩ := h.exists_color
  rw [optionalColor, optionalColor, hsocket, ShadingNode.input?_withLiteral, if_pos rfl]
  simp only [h.color_eq hsocket]

theorem diffuse_eq :
    graph.diffuse (node.withLiteral "Color" literal) = graph.diffuse node := by
  have hrough : (node.withLiteral "Color" literal).isRough = node.isRough := by
    unfold ShadingNode.isRough
    rw [ShadingNode.input?_withLiteral, if_neg (by decide)]
  rw [diffuse, diffuse, hrough, h.optionalColor_eq]
  rfl

theorem glass_eq : graph.glass (node.withLiteral "Color" literal) = graph.glass node := by
  have hior : (node.withLiteral "Color" literal).refractionIndex = node.refractionIndex := by
    unfold ShadingNode.refractionIndex
    rw [ShadingNode.getInput_withLiteral_of_ne _ _ _ (by decide)]
  rw [glass, glass, hior, roughness_withLiteral, h.optionalColor_eq]
  rfl

/-- In each mode a glossy surface requires its color, and looks at it last. -/
theorem glossy_eq (mode : GlossyMode) :
    graph.glossy mode (node.withLiteral "Color" literal) = graph.glossy mode node := by
  obtain ⟨socket, _, _, hsocket, -⟩ := h.exists_color
  have hcolor := h.color_eq hsocket
  have hroughness : graph.roughness (node.withLiteral "Color" literal) = graph.roughness node :=
    roughness_withLiteral
  have hinput : (node.withLiteral "Color" literal).getInput roughnessName =
      node.getInput roughnessName := ShadingNode.getInput_withLiteral_of_ne _ _ _ (by decide)
  unfold glossy
  rw [ShadingNode.distribution_withLiteral, ShadingNode.getInput_withLiteral_self,
    ShadingNode.getInput_eq_ok.mpr hsocket]
  refine bind_congr_ok fun distribution _ => ?_
  simp only [liftM_except, ofExcept_ok_bind]
  cases mode with
  | roughConductor =>
    cases distribution.microfacet? <;> simp only [glossyConductor, hcolor, hroughness]
  | metal => cases distribution.microfacet? <;> simp only [glossyMetal, hcolor, hroughness]
  | blinnPhong => simp only [glossyExponent, hcolor, hinput]
  | phong => simp only [glossyExponent, hcolor, hinput]

/-- **A surface is translated alike** with the literal and with the link. -/
theorem surfaceStep_eq (hkind : node.kind ∈ [.diffuse, .glossy, .glass]) (mode : GlossyMode)
    (side : ShadingNode → Translation (MaterialRecord Image)) (name : Option String) :
    graph.surfaceStep mode side (node.withLiteral "Color" literal) name =
      graph.surfaceStep mode side node name := by
  have hmaterial : graph.material mode side (node.withLiteral "Color" literal) =
      graph.material mode side node := by
    rw [material, material, ShadingNode.kind_withLiteral]
    simp only [List.mem_cons, List.not_mem_nil, or_false] at hkind
    rcases hkind with hkind | hkind | hkind
    · rw [hkind]
      exact h.diffuse_eq
    · rw [hkind]
      exact h.glossy_eq mode
    · rw [hkind]
      exact h.glass_eq
  have hperturbed : ∀ record, graph.perturbed (node.withLiteral "Color" literal) record =
      graph.perturbed node record := by
    intro record
    unfold perturbed
    rw [ShadingNode.input?_withLiteral, if_neg (by decide)]
  unfold surfaceStep
  simp only [hmaterial, hperturbed, ShadingNode.kind_withLiteral, ShadingNode.id_withLiteral]

/-! ## Worlds -/

/-- **A world shines alike** with the literal and with the link. -/
theorem surfaceBackground_eq :
    graph.surfaceBackground (node.withLiteral "Color" literal) = graph.surfaceBackground node := by
  obtain ⟨socket, color, source, hsocket, hdefault, hsource, hkind, hconstant⟩ := h.exists_color
  have hemitted : ∀ strength,
      graph.emittedBackground (node.withLiteral "Color" literal) strength =
        graph.emittedBackground node strength := by
    intro strength
    rw [emittedBackground, emittedBackground, ShadingNode.getInput_withLiteral_self,
      ShadingNode.getInput_eq_ok.mpr hsocket]
    simp only [liftM_except, ofExcept_ok_bind, hsource, hkind, hconstant]
    show ofExcept (Socket.mk "Color" (some literal) none).getColor >>= _ = _
    rw [hdefault, ofExcept_ok_bind]
  unfold surfaceBackground
  rw [ShadingNode.getInput_withLiteral_of_ne _ _ _ (by decide)]
  simp only [hemitted]
  rfl

end ColoredBy

/-! ## Graphs -/

/-- Surfaces are translated alike everywhere in the graph. -/
theorem surface_withLiteral (hnodup : (graph.nodes.map ShadingNode.id).Nodup)
    (hnode : node ∈ graph.nodes) (hcolor : graph.ColoredBy node literal)
    (hkind : node.kind ∈ [.diffuse, .glossy, .glass]) (mode : GlossyMode)
    {start start' : ShadingNode} (hstart : start ∈ graph.nodes)
    (hstart' : start' ∈ (graph.withLiteral ⟨node.id, "Color"⟩ literal).nodes)
    (hid : start'.id = start.id) (name : Option String) :
    (graph.withLiteral ⟨node.id, "Color"⟩ literal).surface mode start' name =
      graph.surface mode start name := by
  have hshaders : ∀ kind ∈ [NodeKind.diffuse, .glossy, .glass], kind.IsShader := by
    simp [NodeKind.IsShader]
  have hreshades := reshades_withLiteral hnodup hnode (hshaders _ hkind) "Color" literal
  -- The node of the id is the changed one.
  obtain ⟨other, hother, rfl⟩ := List.mem_map.mp hstart'
  rw [hreshades.id_eq] at hid
  cases List.inj_on_of_nodup_map hnodup hother hstart hid
  refine hreshades.surface_eq (fun other hother side name => ?_) hstart name
  split
  · next hid =>
    cases List.inj_on_of_nodup_map hnodup hother hnode hid
    exact hcolor.surfaceStep_eq hkind mode side name
  · rfl

/-- The world of the graph shines alike. -/
theorem background_withLiteral (hnodup : (graph.nodes.map ShadingNode.id).Nodup)
    (hnode : graph.surfaceNode = .ok node) (hcolor : graph.ColoredBy node literal)
    (hkind : node.kind ∈ [.background, .emission]) :
    (graph.withLiteral ⟨node.id, "Color"⟩ literal).background = graph.background := by
  have hshaders : ∀ kind ∈ [NodeKind.background, .emission], kind.IsShader := by
    simp [NodeKind.IsShader]
  have hreshades := reshades_withLiteral hnodup (mem_nodes_of_surfaceNode hnode)
    (hshaders _ hkind) "Color" literal
  refine hreshades.background_eq fun other hother => ?_
  cases hnode.symm.trans hother
  rw [if_pos rfl]
  exact hcolor.surfaceBackground_eq

end Graph

/-! ## Sessions -/

/-- The world with another tree. -/
def World.withTree (world : World) (tree : NodeTree) : World :=
  { world with nodeTree := some tree }

/-- **A constant color is as good as its literal**: where the color of a node is linked to a
constant color, the tree with the literal at the input instead of the link still makes a graph. If
the node is a diffuse, glossy or glass surface, then every session translates every node under every
name to the same result, and is the same afterwards, whichever of the two graphs the node is in. And
if it is the background or the emitter that feeds the output, then every session writes the same
background for worlds with either tree, and is the same afterwards. -/
theorem Session.translations_withLiteral {tree : NodeTree} {graph : Graph}
    (hgraph : Graph.ofTree tree = .ok graph) {node : ShadingNode} (hnode : node ∈ graph.nodes)
    {literal : Literal} (hcolor : graph.ColoredBy node literal) :
    let tree' := tree.withLiteral ⟨node.id, "Color"⟩ literal
    ∃ graph', Graph.ofTree tree' = .ok graph' ∧
      graph'.nodes.map ShadingNode.id = graph.nodes.map ShadingNode.id ∧
      (node.kind ∈ [.diffuse, .glossy, .glass] →
        ∀ start ∈ graph.nodes, ∀ start' ∈ graph'.nodes, start'.id = start.id →
          ∀ (session : Session) (name : Option String),
            session.surface graph' start' name = session.surface graph start name) ∧
      (node.kind ∈ [.background, .emission] → graph.surfaceNode = .ok node →
        ∀ (session : Session) (world : World), world.nodeTree = some tree →
          session.writeBackground (some (world.withTree tree')) =
            session.writeBackground (some world)) := by
  have hgraph' := Graph.ofTree_withLiteral hgraph ⟨node.id, "Color"⟩ literal
  have hnodup : (graph.nodes.map ShadingNode.id).Nodup := by
    obtain ⟨hwellFormed, rfl⟩ := Graph.ofTree_eq_ok_iff.mp hgraph
    exact hwellFormed.represents_graph.nodup_ids
  refine ⟨graph.withLiteral ⟨node.id, "Color"⟩ literal, hgraph', ?_, ?_, ?_⟩
  · exact Graph.map_id_nodes_withLiteral ⟨node.id, "Color"⟩ literal
  · intro hkind start hstart start' hstart' hid session name
    unfold surface
    rw [Graph.surface_withLiteral hnodup hnode hcolor hkind _ hstart hstart' hid]
  · intro hkind hsurface session world htree
    have hworld : (world.withTree (tree.withLiteral ⟨node.id, "Color"⟩ literal)).background =
        world.background := by
      unfold World.background World.activeTree? World.withTree
      rw [htree]
      by_cases huse : world.useNodes = true
      · rw [if_pos huse, if_pos huse]
        simp only [hgraph, hgraph', liftM_except, ofExcept_ok_bind]
        exact Graph.background_withLiteral hnodup hsurface hcolor hkind
      · rw [if_neg huse, if_neg huse]
    unfold writeBackground translateWorld
    simp only [hworld]

/-- A gilded frame: gold leaf beside chalk, with the gold at hand as a constant color. -/
def NodeTree.gilding : NodeTree where
  nodes := [
    { id := "frame", idname := "ShaderNodeMixShader", inputs := .ofList [("Fac", .scalar 0.5)] },
    { id := "leaf", idname := "ShaderNodeBsdfGlossy",
      inputs := .ofList [("Roughness", .scalar 0.25)] },
    { id := "chalk", idname := "ShaderNodeBsdfDiffuse" },
    { id := "gold", idname := "ShaderNodeRGB",
      params := .ofList [("color", ⟨.array [.float 1, .float 0.75, .float 0.25], rfl⟩)] }]
  connections := [
    { source := ⟨"leaf", "BSDF"⟩, target := ⟨"frame", "Shader"⟩ },
    { source := ⟨"chalk", "BSDF"⟩, target := ⟨"frame", "Shader_001"⟩ },
    { source := ⟨"gold", "Color"⟩, target := ⟨"leaf", "Color"⟩ },
    { source := ⟨"gold", "Color"⟩, target := ⟨"chalk", "Color"⟩ }]

/-- A world in the light of a constant grey. -/
def NodeTree.overcast : NodeTree where
  nodes := [
    { id := "out", idname := "ShaderNodeOutputWorld" },
    { id := "light", idname := "ShaderNodeBackground",
      inputs := .ofList [("Strength", .scalar 2)] },
    { id := "clouds", idname := "ShaderNodeRGB",
      params := .ofList [("color", ⟨.float 0.5, rfl⟩)] }]
  connections := [
    { source := ⟨"light", "Background"⟩, target := ⟨"out", "Surface"⟩ },
    { source := ⟨"clouds", "Color"⟩, target := ⟨"light", "Color"⟩ }]

/-- The gold may as well be written down at the leaf, and the clouds at the light. -/
theorem Session.translations_withLiteral_gilding :
    (∃ graph', Graph.ofTree (NodeTree.gilding.withLiteral ⟨"leaf", "Color"⟩ (.vec3 1 0.75 0.25)) =
        .ok graph' ∧
      ∃ frame ∈ NodeTree.gilding.graph.nodes,
        ((start {}).surface NodeTree.gilding.graph frame (some "Frame")).1.isOk ∧
        ∃ frame' ∈ graph'.nodes, (start {}).surface graph' frame' (some "Frame") =
          (start {}).surface NodeTree.gilding.graph frame (some "Frame")) ∧
      ((start {}).writeBackground (some { nodeTree := some .overcast })).1 =
        .constant (.grey 1) ∧
      let literalSky := NodeTree.overcast.withLiteral ⟨"light", "Color"⟩ (.scalar 0.5)
      (start {}).writeBackground (some { nodeTree := some literalSky }) =
        (start {}).writeBackground (some { nodeTree := some .overcast }) := by
  constructor
  · let frame := NodeTree.gilding.graph.nodes.head (by decide)
    let leaf := NodeTree.gilding.graph.nodes.get ⟨1, by decide⟩
    have hframe : frame ∈ NodeTree.gilding.graph.nodes := List.head_mem _
    have hcolor : NodeTree.gilding.graph.ColoredBy leaf (.vec3 1 0.75 0.25) :=
      ⟨⟨_, rfl, rfl, rfl⟩, nofun⟩
    have hgraph : Graph.ofTree .gilding = .ok NodeTree.gilding.graph := rfl
    obtain ⟨graph', hgraph', hids, hsurface, -⟩ :=
      translations_withLiteral hgraph (List.get_mem _ _) hcolor
    obtain ⟨frame', hframe', hid⟩ : ∃ frame' ∈ graph'.nodes, frame'.id = frame.id := by
      rw [← List.mem_map, hids]
      exact List.mem_map_of_mem hframe
    exact ⟨graph', hgraph', frame, hframe, by decide +kernel, frame', hframe',
      hsurface (by decide) frame hframe frame' hframe' hid (start {}) (some "Frame")⟩
  · let light := NodeTree.overcast.graph.nodes.get ⟨1, by decide⟩
    have hcolor : NodeTree.overcast.graph.ColoredBy light (.scalar 0.5) :=
      ⟨⟨_, rfl, rfl, rfl⟩, nofun⟩
    have hgraph : Graph.ofTree .overcast = .ok NodeTree.overcast.graph := rfl
    obtain ⟨_, -, -, -, hworld⟩ := translations_withLiteral hgraph (List.get_mem _ _) hcolor
    exact ⟨by decide +kernel,
      hworld (by decide) rfl (start {}) { nodeTree := some .overcast } rfl⟩

end ShadingExport
