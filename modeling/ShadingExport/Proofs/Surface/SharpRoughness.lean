import ShadingExport.Proofs.Graph.Construction
import ShadingExport.Proofs.Surface.SocketValues
import ShadingExport.Proofs.Translation.Reshading
import ShadingExport.Snapshot.NodeType

/-!
# The roughness of sharp reflections

A glossy node with a sharp distribution is a mirror, whatever its roughness is. Two of the glossy
modes ask all the same that the roughness is a literal (`GlossyMode.checkSharp`): they make that
check before they look at the distribution. Apart from this, the roughness of a sharp reflection is
never read (`Graph.glossy_of_sharp`). So graphs that differ in nothing else translate alike from
every node, where the check comes out alike (`Session.surface_sharpRoughness`).
-/

namespace ShadingExport

open Translation

namespace ShadingNode

/-- A glossy node with a sharp distribution. -/
structure IsSharp (node : ShadingNode) : Prop where
  /-- The node is glossy. -/
  kind_eq : node.kind = .glossy
  /-- Its distribution is the sharp one. -/
  distribution_eq : node.distribution = .ok .sharp

/-- Two nodes that differ at most at one input: in whether it is there, its literal and its link. -/
structure SameBut (name : String) (node node' : ShadingNode) : Prop where
  /-- The ids are the same. -/
  id_eq : node'.id = node.id
  /-- The kinds are the same. -/
  kind_eq : node'.kind = node.kind
  /-- The attributes are the same. -/
  params_eq : node'.params = node.params
  /-- The images are the same. -/
  image_eq : node'.image = node.image
  /-- The other inputs have the same literals. -/
  literals_eq : ∀ query, query ≠ name → node'.literals.get? query = node.literals.get? query
  /-- The other inputs have the same links. -/
  links_eq : ∀ query, query ≠ name → node'.links.get? query = node.links.get? query

/-- The number at an unlinked roughness. -/
def literalRoughness (node : ShadingNode) : Except TranslationError Float := do
  let socket ← node.getInput roughnessName
  if socket.isLinked then .error (.unsupportedFeature .linkedPhongRoughness)
  else socket.getNumber

variable {node node' : ShadingNode}

theorem literalRoughness_eq_ok {value : Float} :
    node.literalRoughness = .ok value ↔ node.HasLiteral roughnessName (.scalar value) := by
  unfold literalRoughness HasLiteral
  cases hsocket : node.getInput roughnessName with
  | error error =>
    have hnone : ∀ socket, node.input? roughnessName ≠ some socket := by
      intro socket hinput
      rw [← getInput_eq_ok, hsocket] at hinput
      cases hinput
    simp [bind, Except.bind, hnone]
  | ok socket =>
    rw [getInput_eq_ok] at hsocket
    cases hlink : socket.link with
    | none => simp [bind, Except.bind, hsocket, hlink, Socket.isLinked, Socket.getNumber_eq_ok]
    | some link => simp [bind, Except.bind, hsocket, hlink, Socket.isLinked]

namespace SameBut

variable {name : String} (h : node.SameBut name node')
include h

/-- The other inputs are the same. -/
theorem input?_eq {query : String} (hquery : query ≠ name) :
    node'.input? query = node.input? query := by
  rw [input?, input?, h.literals_eq query hquery, h.links_eq query hquery]

theorem getInput_eq {query : String} (hquery : query ≠ name) :
    node'.getInput query = node.getInput query := by
  rw [getInput, getInput, h.input?_eq hquery, h.id_eq]

theorem distribution_eq : node'.distribution = node.distribution := by
  rw [distribution, distribution, attributeText?, attributeText?, h.params_eq]

theorem isSharp (hsharp : node.IsSharp) : node'.IsSharp :=
  ⟨h.kind_eq.trans hsharp.kind_eq, h.distribution_eq.trans hsharp.distribution_eq⟩

end SameBut

/-- Two nodes that are the same, or sharp reflections that are the same but for their roughness. -/
def SharpAlike (node node' : ShadingNode) : Prop :=
  node' = node ∨ node.IsSharp ∧ node.SameBut roughnessName node'

namespace SharpAlike

variable (h : node.SharpAlike node')
include h

theorem id_eq : node'.id = node.id := by
  rcases h with rfl | ⟨-, hsame⟩
  · rfl
  · exact hsame.id_eq

theorem kind_eq : node'.kind = node.kind := by
  rcases h with rfl | ⟨-, hsame⟩
  · rfl
  · exact hsame.kind_eq

/-- Only glossy nodes differ. -/
theorem eq_of_not_isShader (hshader : ¬node.kind.IsShader) : node' = node := by
  rcases h with rfl | ⟨hsharp, -⟩
  · rfl
  · rw [hsharp.kind_eq] at hshader
    exact absurd trivial hshader

end SharpAlike

end ShadingNode

/-! ## Mirrors -/

namespace GlossyMode

/-- What a glossy mode asks of the roughness of a sharp reflection: to be a literal where the mode
has exponents, and else nothing. -/
def checkSharp (mode : GlossyMode) (node : ShadingNode) : Except TranslationError Unit :=
  match mode with
  | .roughConductor | .metal => .ok ()
  | .blinnPhong | .phong => node.literalRoughness.map fun _ => ()

/-- The material of a sharp reflection. -/
def mirror (mode : GlossyMode) (color : VaryingColor Image) :
    Material Image (MaterialRecord Image) :=
  match mode with
  | .roughConductor => .conductor color
  | .metal | .blinnPhong | .phong => .metal (.constant 0) color

theorem checkSharp_eq_ok_iff {mode : GlossyMode} {node : ShadingNode} :
    mode.checkSharp node = .ok () ↔
      mode = .roughConductor ∨ mode = .metal ∨
        ∃ value, node.HasLiteral roughnessName (.scalar value) := by
  have hliteral : node.literalRoughness.map (fun _ => ()) = .ok () ↔
      ∃ value, node.HasLiteral roughnessName (.scalar value) := by
    simp only [← ShadingNode.literalRoughness_eq_ok]
    cases node.literalRoughness <;> simp [Except.map]
  cases mode with
  | roughConductor => simp [checkSharp]
  | metal => simp [checkSharp]
  | blinnPhong => simpa [checkSharp] using hliteral
  | phong => simpa [checkSharp] using hliteral

end GlossyMode

namespace Graph

variable {graph graph' : Graph} {mode : GlossyMode} {node node' : ShadingNode}

/-- Without a distribution, the roughness is checked and forgotten. -/
theorem glossyExponent_none {color : Socket}
    {material : Float → Microfacet → VaryingColor Image → Material Image (MaterialRecord Image)} :
    graph.glossyExponent node color none material = do
      let _ ← ofExcept (node.literalRoughness.map fun _ => ())
      return .metal (.constant 0) (← graph.color color) := by
  unfold glossyExponent
  cases hsocket : node.getInput roughnessName with
  | error error =>
    have hcheck : node.literalRoughness = .error error := by
      rw [ShadingNode.literalRoughness, hsocket]
      rfl
    rw [hcheck]
    rfl
  | ok socket =>
    have hcheck : node.literalRoughness =
        if socket.isLinked then .error (.unsupportedFeature .linkedPhongRoughness)
        else socket.getNumber := by
      rw [ShadingNode.literalRoughness, hsocket]
      rfl
    rw [hcheck, liftM_except, ofExcept_ok_bind]
    cases socket.isLinked with
    | true => rfl
    | false => cases socket.getNumber <;> rfl

/-- **A sharp reflection reads its color alone**, after the check of its roughness. -/
theorem glossy_of_sharp (hsharp : node.IsSharp) :
    graph.glossy mode node = do
      let color ← node.getInput "Color"
      mode.checkSharp node
      return mode.mirror (← graph.color color) := by
  unfold glossy
  simp only [liftM_except, hsharp.distribution_eq, ofExcept_ok_bind]
  refine bind_congr_ok fun color _ => ?_
  cases mode with
  | roughConductor => rfl
  | metal => rfl
  | blinnPhong => exact glossyExponent_none
  | phong => exact glossyExponent_none

/-- A sharp reflection is its color and what perturbs its normals. -/
theorem surface_of_sharp (hnode : node ∈ graph.nodes) (hsharp : node.IsSharp)
    (name : Option String) :
    graph.surface mode node name = (do
      emit (.trace (.translating node.kind node.id))
      let color ← node.getInput "Color"
      mode.checkSharp node
      let albedo ← graph.color color
      graph.perturbed node ⟨name, mode.mirror albedo⟩) := by
  -- A graph with a node leaves room for one step, and a reflection has no sides to go on with.
  obtain ⟨depth, hdepth⟩ := Nat.exists_eq_add_one_of_ne_zero (List.length_pos_of_mem hnode).ne'
  rw [surface, size, hdepth, surfaceWithin, surfaceStep, material_of_glossy hsharp.kind_eq,
    glossy_of_sharp hsharp]
  simp only [bind_assoc, pure_bind]

/-- Where its color is known, a sharp reflection is a mirror, unless the check of its roughness or
its normals fail. -/
theorem outcome_surface_of_sharp (hnode : node ∈ graph.nodes) (hsharp : node.IsSharp)
    {color : Socket} (hcolor : node.input? "Color" = some color) {albedo : VaryingColor Image}
    (halbedo : (graph.color color).outcome = .ok albedo) (name : Option String) :
    (graph.surface mode node name).outcome = do
      mode.checkSharp node
      let perturbation ← (graph.perturbation node).outcome
      return (⟨name, mode.mirror albedo⟩ : MaterialRecord Image).perturbedBy perturbation := by
  rw [surface_of_sharp hnode hsharp, outcome_bind_ok _ (outcome_emit _)]
  simp only [liftM_except, ShadingNode.getInput_eq_ok.mpr hcolor, ofExcept_ok_bind]
  cases mode.checkSharp node with
  | error error => rfl
  | ok _ =>
    rw [ofExcept_ok_bind, outcome_bind_ok _ halbedo, perturbed_eq, outcome_map]
    rfl

/-! ## Graphs that differ in the roughness of sharp reflections -/

/-- A step on a sharp reflection does not notice its roughness but for the check. -/
theorem surfaceStep_sharp (hsharp : node.IsSharp) (hsame : node.SameBut roughnessName node')
    (hcheck : mode.checkSharp node' = mode.checkSharp node)
    (side : ShadingNode → Translation (MaterialRecord Image)) (name : Option String) :
    graph.surfaceStep mode side node' name = graph.surfaceStep mode side node name := by
  have hperturbed : ∀ record, graph.perturbed node' record = graph.perturbed node record := by
    intro record
    rw [perturbed, perturbed, hsame.input?_eq (by decide)]
  have hsharp' := hsame.isSharp hsharp
  rw [surfaceStep, surfaceStep, material_of_glossy hsharp.kind_eq,
    material_of_glossy hsharp'.kind_eq, glossy_of_sharp hsharp, glossy_of_sharp hsharp',
    hsame.id_eq, hsame.kind_eq, hsame.getInput_eq (by decide), hcheck]
  simp only [hperturbed]

/-- The graphs differ at most in the roughness of sharp reflections. -/
def DiffersInSharpRoughness (graph graph' : Graph) : Prop :=
  List.Forall₂ ShadingNode.SharpAlike graph.nodes graph'.nodes

/-- The node of the same id and kind in a graph, if there is one. -/
def partner (graph : Graph) (node : ShadingNode) : ShadingNode :=
  (graph.nodes.find? fun other => (other.id, other.kind) == (node.id, node.kind)).getD node

theorem key_partner (graph : Graph) (node : ShadingNode) :
    ((graph.partner node).id, (graph.partner node).kind) = (node.id, node.kind) := by
  unfold partner
  cases hfound : graph.nodes.find? fun other => (other.id, other.kind) == (node.id, node.kind) with
  | none => rfl
  | some other => simpa using List.find?_some hfound

/-- Where ids are distinct, a node of the graph is the partner of each node that it is like. -/
theorem partner_eq (hnodup : (graph.nodes.map ShadingNode.id).Nodup)
    (halike : node.SharpAlike node') (hnode' : node' ∈ graph.nodes) :
    graph.partner node = node' := by
  have hkeys : (graph.nodes.map fun other => (other.id, other.kind)).Nodup := by
    refine List.Nodup.of_map Prod.fst ?_
    rwa [List.map_map]
  rw [partner, ← halike.id_eq, ← halike.kind_eq, find?_eq_some_of_nodup_map hkeys hnode',
    Option.getD_some]

namespace DiffersInSharpRoughness

variable (h : graph.DiffersInSharpRoughness graph')
  (hnodup : (graph'.nodes.map ShadingNode.id).Nodup)
include h hnodup

/-- The other graph consists of the partners, and each is like its node. -/
theorem nodes_eq : graph' = graph.mapNodes graph'.partner ∧
    ∀ node ∈ graph.nodes, node.SharpAlike (graph'.partner node) := by
  have hpartners : List.Forall₂ ShadingNode.SharpAlike graph.nodes graph'.nodes := h
  have hmap : graph'.nodes = graph.nodes.map graph'.partner := by
    -- Two graphs of one length are compared position by position.
    rw [List.forall₂_iff_zip] at hpartners
    rw [eq_comm, ← List.forall₂_eq_eq_eq, List.forall₂_map_left_iff, List.forall₂_iff_zip]
    refine ⟨hpartners.1, fun hpair => ?_⟩
    exact partner_eq hnodup (hpartners.2 hpair) (List.of_mem_zip hpair).2
  refine ⟨congrArg Graph.mk hmap, ?_⟩
  rwa [hmap, List.forall₂_map_right_iff, List.forall₂_same] at hpartners

/-- To go over to the partners is a change of shaders. -/
theorem reshades : graph.Reshades graph'.partner where
  id_eq node := (Prod.mk.inj (graph'.key_partner node)).1
  kind_eq node := (Prod.mk.inj (graph'.key_partner node)).2
  fixed node hnode hshader :=
    ((h.nodes_eq hnodup).2 node hnode).eq_of_not_isShader hshader

/-- **The roughness of a sharp reflection goes unnoticed** but for the check. -/
theorem surface_eq
    (hcheck : ∀ node ∈ graph.nodes, ∀ node' ∈ graph'.nodes, node.IsSharp → node'.id = node.id →
      mode.checkSharp node' = mode.checkSharp node)
    (hnode : node ∈ graph.nodes) (hnode' : node' ∈ graph'.nodes) (hid : node'.id = node.id)
    (name : Option String) :
    graph'.surface mode node' name = graph.surface mode node name := by
  obtain ⟨hgraph', halike⟩ := h.nodes_eq hnodup
  have hreshades := h.reshades hnodup
  have hmem : ∀ node ∈ graph.nodes, graph'.partner node ∈ graph'.nodes := by
    intro node hnode
    have hpartner := List.mem_map_of_mem (f := graph'.partner) hnode
    rwa [show graph.nodes.map graph'.partner = graph'.nodes from congrArg Graph.nodes hgraph'.symm]
      at hpartner
  -- Ids are distinct, so the node of the same id is the partner.
  have hpartner : node' = graph'.partner node :=
    List.inj_on_of_nodup_map hnodup hnode' (hmem node hnode)
      (hid.trans (hreshades.id_eq node).symm)
  have hsurface : (graph.mapNodes graph'.partner).surface mode (graph'.partner node) name =
      graph.surface mode node name := by
    refine hreshades.surface_eq (fun other hother side name => ?_) hnode name
    rcases halike other hother with hsame | ⟨hsharp, hsame⟩
    · rw [hsame]
    · exact surfaceStep_sharp hsharp hsame
        (hcheck other hother _ (hmem other hother) hsharp hsame.id_eq) side name
  rwa [← hgraph', ← hpartner] at hsurface

end DiffersInSharpRoughness

end Graph

/-! ## Sessions -/

namespace Session

variable {session : Session} {graph graph' : Graph} {node : ShadingNode} {name : Option String}

/-- What a node translates to is rendered by the session afterwards. -/
theorem surface_renders {skeleton : MaterialRecord Image}
    (h : (graph.surface session.settings.glossyMode node name).outcome = .ok skeleton) :
    ∃ record, (session.surface graph node name).1 = .ok record ∧
      (session.surface graph node name).2.textures.Renders skeleton record :=
  ⟨_, surface_eq_ok_iff.mpr ⟨skeleton, h, rfl⟩,
    session.renders_perform (graph.surface_ensures _ node name skeleton h).2⟩

/-- **The roughness of a sharp reflection counts for nothing but its check**: if the graph of a tree
differs from another one at most in the roughness of sharp reflections, in whether it is there, its
literal or its link, and the glossy mode of a session makes the same of it when it checks it, then
the session translates every node of the one graph like that of the same id in the other, to the
same record or error and with the same reports and copies. The check is made in the two modes with
exponents alone, and passed by a number at an unlinked roughness. A sharp reflection whose color is
known fails with the error of a failed check; if the check is passed, it is a mirror, and fails only
where its normals do. -/
theorem surface_sharpRoughness {tree' : NodeTree} (hgraph' : Graph.ofTree tree' = .ok graph')
    (hdiffers : graph.DiffersInSharpRoughness graph')
    (hcheck : ∀ node ∈ graph.nodes, ∀ node' ∈ graph'.nodes, node.IsSharp → node'.id = node.id →
      session.settings.glossyMode.checkSharp node' = session.settings.glossyMode.checkSharp node) :
    let mode := session.settings.glossyMode
    (∀ start ∈ graph.nodes, ∀ start' ∈ graph'.nodes, start'.id = start.id → ∀ name,
        session.surface graph' start' name = session.surface graph start name) ∧
      ∀ node ∈ graph.nodes, node.IsSharp → ∀ color albedo, node.input? "Color" = some color →
        (graph.color color).outcome = .ok albedo → ∀ name,
          let (result, after) := session.surface graph node name
          (∀ error, mode.checkSharp node = .error error → result = .error error) ∧
            (mode = .roughConductor ∨ mode = .metal ∨
                (∃ value, node.HasLiteral "Roughness" (.scalar value)) →
              (∀ error, (graph.perturbation node).outcome = .error error →
                  result = .error error) ∧
                ∀ perturbation, (graph.perturbation node).outcome = .ok perturbation →
                  ∃ record, result = .ok record ∧ after.textures.Renders
                    ((⟨name, mode.mirror albedo⟩ : MaterialRecord Image).perturbedBy perturbation)
                    record) := by
  intro mode
  constructor
  · intro start hstart start' hstart' hid name
    have hnodup := Graph.nodup_ids_of_ofTree hgraph'
    unfold surface
    rw [hdiffers.surface_eq hnodup hcheck hstart hstart' hid name]
  · intro node hnode hsharp color albedo hcolor halbedo name
    have houtcome : (graph.surface mode node name).outcome = _ :=
      Graph.outcome_surface_of_sharp hnode hsharp hcolor halbedo name
    refine ⟨fun error hfailed => ?_, fun hpassed => ?_⟩
    · rw [hfailed] at houtcome
      exact surface_eq_error_iff.mpr houtcome
    · rw [GlossyMode.checkSharp_eq_ok_iff.mpr hpassed] at houtcome
      refine ⟨fun error herror => ?_, fun perturbation hperturbation => ?_⟩
      · rw [herror] at houtcome
        exact surface_eq_error_iff.mpr houtcome
      · rw [hperturbation] at houtcome
        exact surface_renders houtcome

end Session

/-- A mirror, with a texture of scratches at hand. -/
def NodeTree.mirror : NodeTree where
  nodes := [
    { id := "mirror", idname := "ShaderNodeBsdfGlossy",
      inputs := .ofList [("Color", .scalar 0.9), ("Roughness", .scalar 0.5)],
      params := .ofList [("distribution", NodeType.textParam "SHARP")] },
    { id := "scratches", idname := "ShaderNodeTexImage", image := some { name := "scratches" } }]

/-- The mirror with its roughness linked to the scratches. -/
def NodeTree.scratchedMirror : NodeTree :=
  { NodeTree.mirror with
    connections := [
      { source := ⟨"scratches", "Color"⟩, target := ⟨"mirror", "Roughness"⟩ }] }

theorem NodeTree.mirror_differs :
    NodeTree.mirror.graph.DiffersInSharpRoughness NodeTree.scratchedMirror.graph := by
  refine .cons (.inr ⟨⟨rfl, rfl⟩, rfl, rfl, rfl, rfl, fun _ _ => rfl, ?_⟩) (.cons (.inl rfl) .nil)
  intro query hquery
  show (Table.ofList [("Roughness", (⟨"scratches", "Color"⟩ : Link))]).get? query = none
  rw [Table.get?_ofList]
  exact List.lookup_eq_none_iff.mpr (by simpa [roughnessName] using hquery)

/-- Where reflections are conductors, the scratches do not show. -/
theorem Session.surface_sharpRoughness_conductor :
    Graph.ofTree .scratchedMirror = .ok NodeTree.scratchedMirror.graph ∧
      NodeTree.mirror.graph.DiffersInSharpRoughness NodeTree.scratchedMirror.graph ∧
      ∃ node ∈ NodeTree.mirror.graph.nodes, ∃ node' ∈ NodeTree.scratchedMirror.graph.nodes,
        (node'.input? "Roughness").any Socket.isLinked ∧
          (start {}).surface NodeTree.scratchedMirror.graph node' none =
            (start {}).surface NodeTree.mirror.graph node none ∧
          ∃ record, ((start {}).surface NodeTree.mirror.graph node none).1 = .ok record ∧
            record.material = .conductor (.constant (.grey 0.9)) := by
  have hgraph' : Graph.ofTree .scratchedMirror = .ok NodeTree.scratchedMirror.graph := rfl
  let node := NodeTree.mirror.graph.nodes.head (by decide)
  let node' := NodeTree.scratchedMirror.graph.nodes.head (by decide)
  have hnode : node ∈ NodeTree.mirror.graph.nodes := List.head_mem _
  have hnode' : node' ∈ NodeTree.scratchedMirror.graph.nodes := List.head_mem _
  have hcheck : ∀ node ∈ NodeTree.mirror.graph.nodes,
      ∀ node' ∈ NodeTree.scratchedMirror.graph.nodes, node.IsSharp → node'.id = node.id →
        (start {}).settings.glossyMode.checkSharp node' =
          (start {}).settings.glossyMode.checkSharp node :=
    fun _ _ _ _ _ _ => rfl
  obtain ⟨halike, hmirror⟩ := surface_sharpRoughness hgraph' NodeTree.mirror_differs hcheck
  obtain ⟨-, hpassed⟩ := hmirror node hnode ⟨rfl, rfl⟩ _ (.constant (.grey 0.9)) rfl rfl none
  obtain ⟨record, hrecord, hrendered⟩ := (hpassed (.inl rfl)).2 none rfl
  exact ⟨hgraph', NodeTree.mirror_differs, node, hnode, node', hnode', rfl,
    halike node hnode node' hnode' rfl none, record, hrecord, by rw [hrendered.eq_map]; rfl⟩

/-- In Phong mode they are refused. -/
theorem Session.surface_sharpRoughness_phong :
    let session := start { glossyMode := .phong }
    Graph.ofTree .mirror = .ok NodeTree.mirror.graph ∧
      Graph.ofTree .scratchedMirror = .ok NodeTree.scratchedMirror.graph ∧
      NodeTree.mirror.graph.MixAcyclic ∧ NodeTree.scratchedMirror.graph.MixAcyclic ∧
      NodeTree.mirror.graph.DiffersInSharpRoughness NodeTree.scratchedMirror.graph ∧
      ∃ node ∈ NodeTree.mirror.graph.nodes, ∃ node' ∈ NodeTree.scratchedMirror.graph.nodes,
        node.IsSharp ∧ node'.id = node.id ∧
          (∃ record, (session.surface NodeTree.mirror.graph node none).1 = .ok record) ∧
          (session.surface NodeTree.scratchedMirror.graph node' none).1 =
            .error (.unsupportedFeature .linkedPhongRoughness) := by
  refine ⟨rfl, rfl, Graph.mixAcyclic_of_sides (by decide +kernel),
    Graph.mixAcyclic_of_sides (by decide +kernel), NodeTree.mirror_differs,
    NodeTree.mirror.graph.nodes.head (by decide), List.head_mem _,
    NodeTree.scratchedMirror.graph.nodes.head (by decide), List.head_mem _, ⟨rfl, rfl⟩, rfl,
    ⟨_, rfl⟩, rfl⟩

end ShadingExport
