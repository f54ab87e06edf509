import ShadingExport.Proofs.Translation.FindsDefaults
import ShadingExport.Translation.World

/-!
# No host default is missing

Once the trees of a scene are filled from the node types, no material fails for a missing input or
literal (`NodeTree.surface_findsDefaults`). A world does so only where it looks for the strength of
a surface that has none (`Graph.background_failsOnly`). Both are put together for whole scenes in
`Scene.fillDefaults_suffices`.
-/

namespace ShadingExport

open Translation

namespace Graph

variable {graph : Graph} {node : ShadingNode}

/-! ## Worlds -/

theorem checkCoordinates_findsDefaults (graph : Graph) (mapping : ShadingNode) :
    (ofExcept (graph.checkCoordinates mapping)).FindsDefaults := by
  intro error (h : graph.checkCoordinates mapping = .error error)
  unfold checkCoordinates at h
  split at h
  · cases h
    exact not_false
  · split at h
    · cases h
      exact not_false
    · split at h
      · cases h
        exact not_false
      · split at h <;> cases h
        exact not_false

section Worlds

variable (hlinks : graph.LinksResolve) (hcomplete : graph.Complete) (hnode : node ∈ graph.nodes)
include hcomplete hnode

theorem rotation_findsDefaults (hkind : node.kind = .mapping) :
    (ofExcept node.rotation).FindsDefaults := by
  intro error (h : node.rotation = .error error)
  obtain ⟨socket, hsocket, hdefault⟩ : ∃ socket, node.input? "Rotation" = some socket ∧
      socket.default.isSome :=
    exists_input_of_needed hcomplete hnode (by rw [hkind]; decide)
  obtain ⟨literal, hliteral⟩ := Option.isSome_iff_exists.mp hdefault
  unfold ShadingNode.rotation Socket.getLiteral at h
  simp only [ShadingNode.getInput_eq_ok.mpr hsocket, hliteral, bind, Except.bind] at h
  split at h
  · cases h
    exact not_false
  · split at h <;> cases h
    exact not_false

/-- Before the rotation of a mapping is needed, a node of another kind is refused. -/
theorem coordinateRotation_findsDefaults :
    (ofExcept (graph.coordinateRotation node)).FindsDefaults := by
  intro error (h : graph.coordinateRotation node = .error error)
  unfold coordinateRotation at h
  split at h
  · cases h
    exact not_false
  · next hkind =>
    cases hcheck : graph.checkCoordinates node with
    | error first =>
      rw [hcheck] at h
      cases h
      exact graph.checkCoordinates_findsDefaults node error hcheck
    | ok _ =>
      rw [hcheck] at h
      exact rotation_findsDefaults hcomplete hnode (not_not.mp hkind) error h

omit hnode in
theorem envmap_findsDefaults (node : ShadingNode) (scale : Float) :
    (graph.envmap node scale).FindsDefaults := by
  unfold envmap
  simp only [FindsDefaults, bind_pure_comp, liftM_except, failsOnly_bind, failsOnly_emit, true_and]
  refine ⟨node.getImage_findsDefaults, fun image _ _ _ => ?_⟩
  split
  · exact failsOnly_pure
  · next mapping hmapping =>
    rw [failsOnly_map]
    exact coordinateRotation_findsDefaults hcomplete (mem_nodes_of_feeding? hmapping)

omit hcomplete hnode in
theorem constantRadiance_failsOnly {allowed : TranslationError → Prop} (base : Color)
    (strength : Float) : (constantRadiance base strength).FailsOnly allowed :=
  failsOnly_ite (fun _ => failsOnly_report_bind.mpr failsOnly_pure) fun _ => failsOnly_pure

include hlinks

theorem emittedBackground_findsDefaults (hkind : node.kind = .background ∨ node.kind = .emission)
    (strength : Float) : (graph.emittedBackground node strength).FindsDefaults := by
  have hneeded : "Color" ∈ node.kind.neededInputs := by
    rcases hkind with hkind | hkind <;> rw [hkind] <;> decide
  refine failsOnly_getInput_bind hcomplete hnode hneeded fun socket hsocket _ => ?_
  cases hsource : graph.upstream? socket with
  | none =>
    simp only [liftM_except, failsOnly_bind]
    exact ⟨socket.getColor_findsDefaults
      (default_isSome_of_upstream?_eq_none hlinks hnode hsocket hsource),
      fun _ _ => constantRadiance_failsOnly _ _⟩
  | some source =>
    dsimp only
    split
    · exact envmap_findsDefaults hcomplete source strength
    · simp only [liftM_except, failsOnly_bind]
      exact ⟨source.constantColor_findsDefaults,
        fun _ _ => constantRadiance_failsOnly _ _⟩
    · exact failsOnly_fail.mpr not_false

/-- The strength of a node is looked for before its kind is known to have one. -/
theorem surfaceBackground_failsOnly :
    (graph.surfaceBackground node).FailsOnly fun error => ¬ error.LacksDefault ∨
      error = .missingInput node.id "Strength" ∧
        node.kind ≠ .background ∧ node.kind ≠ .emission := by
  unfold surfaceBackground
  simp only [liftM_except]
  rw [failsOnly_bind]
  constructor
  · intro error herror
    obtain ⟨hmissing, rfl⟩ := ShadingNode.getInput_eq_error.mp herror
    have hother : "Strength" ∉ node.kind.neededInputs := by
      intro hneeded
      obtain ⟨socket, hsocket, -⟩ := exists_input_of_needed hcomplete hnode hneeded
      rw [hmissing] at hsocket
      cases hsocket
    refine .inr ⟨rfl, fun hkind => hother ?_, fun hkind => hother ?_⟩ <;> rw [hkind] <;> decide
  · intro socket hsocket
    rw [outcome_ofExcept, ShadingNode.getInput_eq_ok] at hsocket
    refine failsOnly_ite (fun _ => failsOnly_fail.mpr (.inl not_false)) fun hlinked => ?_
    have hlink : socket.link = none := by simpa [Socket.isLinked] using hlinked
    rw [failsOnly_bind]
    have hdefault := ShadingNode.default_isSome_of_link_eq_none hsocket hlink
    refine ⟨(socket.getNumber_findsDefaults hdefault).mono fun _ => .inl, fun strength _ => ?_⟩
    refine failsOnly_ite (fun _ => ?_) fun _ => failsOnly_ite (fun hkind => ?_) fun _ =>
      failsOnly_fail.mpr (.inl not_false)
    · exact failsOnly_report_bind.mpr failsOnly_pure
    · rw [Bool.or_eq_true, decide_eq_true_eq, decide_eq_true_eq] at hkind
      exact (emittedBackground_findsDefaults hlinks hcomplete hnode hkind strength).mono
        fun _ => .inl

end Worlds

/-- A complete graph of a world misses nothing but the strength of a surface that has none. -/
theorem background_failsOnly (hlinks : graph.LinksResolve) (hcomplete : graph.Complete) :
    graph.background.FailsOnly fun error => ¬ error.LacksDefault ∨
      ∃ node, graph.surfaceNode = .ok node ∧ error = .missingInput node.id "Strength" ∧
        node.kind ≠ .background ∧ node.kind ≠ .emission := by
  unfold background
  split
  · exact failsOnly_report_bind.mpr failsOnly_pure
  · next output houtput =>
    split
    · exact failsOnly_pure
    · next node hnode =>
      refine (surfaceBackground_failsOnly hlinks hcomplete (mem_nodes_of_feeding? hnode)).mono ?_
      rintro error (h | h)
      · exact .inl h
      · exact .inr ⟨node, surfaceNode_eq_ok.mpr ⟨output, houtput, hnode⟩, h⟩

end Graph

/-! ## Filled scenes -/

/-- Filling a tree leaves no needed literal out, so its surface misses none. -/
theorem NodeTree.surface_findsDefaults (tree : NodeTree) (mode : GlossyMode) (name : String) :
    (tree.fillDefaults.surface mode name).FindsDefaults := by
  unfold surface
  simp only [FindsDefaults, liftM_except, failsOnly_bind]
  refine ⟨Graph.ofTree_findsDefaults _, fun graph hgraph =>
    ⟨graph.surfaceNode_findsDefaults, fun node hnode => ?_⟩⟩
  exact Graph.surfaceWithin_findsDefaults (Graph.linksResolve_of_ofTree hgraph)
    (NodeTree.complete_fillDefaults hgraph) (Graph.mem_nodes_of_surfaceNode hnode) _ _

/-- The world misses the strength of its surface, and that is of a kind that has none. -/
def World.AsksForStrength (world : World) (error : TranslationError) : Prop :=
  ∃ tree graph node, world.activeTree? = some tree ∧ Graph.ofTree tree = .ok graph ∧
    graph.surfaceNode = .ok node ∧ node.kind ≠ .background ∧ node.kind ≠ .emission ∧
    error = .missingInput node.id "Strength"

theorem World.background_failsOnly (world : World) :
    world.fillDefaults.background.FailsOnly fun error =>
      ¬ error.LacksDefault ∨ world.fillDefaults.AsksForStrength error := by
  unfold background AsksForStrength
  rw [activeTree?_fillDefaults]
  cases world.activeTree? with
  | none =>
    dsimp only [Option.map_none]
    split
    · exact failsOnly_pure
    · exact failsOnly_fail.mpr (.inl not_false)
  | some tree =>
    simp only [Option.map_some, liftM_except, failsOnly_bind]
    refine ⟨(Graph.ofTree_findsDefaults _).mono fun _ => .inl, fun graph hgraph => ?_⟩
    refine (Graph.background_failsOnly (Graph.linksResolve_of_ofTree hgraph)
      (NodeTree.complete_fillDefaults hgraph)).mono ?_
    rintro error (h | ⟨node, hnode, herror, hkinds⟩)
    · exact .inl h
    · exact .inr ⟨_, graph, node, rfl, hgraph, hnode, hkinds.1, hkinds.2, herror⟩

theorem TranslationError.not_lacksDefault_iff {error : TranslationError} :
    ¬ error.LacksDefault ↔
      (∀ node socket, error ≠ .missingInput node socket) ∧
        ∀ socket, error ≠ .unsupportedFeature (.noLiteral socket) := by
  cases error with
  | unsupportedFeature feature => cases feature <;> simp [LacksDefault]
  | _ => simp [LacksDefault]

/-- **After filling, no host default is missing**: whatever the glossy mode, no material of a filled
scene fails for a missing input or for a missing literal; and its world never fails for a missing
literal, and for a missing input only where that is the strength of a surface which is neither a
background nor an emitter. -/
theorem Scene.fillDefaults_suffices (scene : Scene) :
    (∀ material ∈ scene.fillDefaults.materials, ∀ tree, material.activeTree? = some tree →
      ∀ mode name error, (tree.surface mode name).outcome = .error error →
        (∀ node socket, error ≠ .missingInput node socket) ∧
          ∀ socket, error ≠ .unsupportedFeature (.noLiteral socket)) ∧
    ∀ world, scene.fillDefaults.world = some world →
      ∀ error, world.background.outcome = .error error →
        (∀ socket, error ≠ .unsupportedFeature (.noLiteral socket)) ∧
          ((∃ node socket, error = .missingInput node socket) → world.AsksForStrength error) := by
  constructor
  · intro material hmaterial tree htree mode name error herror
    obtain ⟨sparse, -, rfl⟩ := List.mem_map.mp hmaterial
    rw [HostMaterial.activeTree?_fillDefaults, Option.map_eq_some_iff] at htree
    obtain ⟨sparseTree, -, rfl⟩ := htree
    exact TranslationError.not_lacksDefault_iff.mp
      (sparseTree.surface_findsDefaults mode name error herror)
  · intro world hworld error herror
    obtain ⟨sparse, -, rfl⟩ := Option.map_eq_some_iff.mp hworld
    rcases sparse.background_failsOnly error herror with h | h
    · have hnone := TranslationError.not_lacksDefault_iff.mp h
      exact ⟨hnone.2, fun ⟨node, socket, hmissing⟩ => absurd hmissing (hnone.1 node socket)⟩
    · refine ⟨?_, fun _ => h⟩
      obtain ⟨_, _, node, -, -, -, -, -, rfl⟩ := h
      rintro socket ⟨⟩

/-- A scratched chrome whose host leaves all defaults out. -/
def NodeTree.chrome : NodeTree where
  nodes := [
    { id := "out", idname := "ShaderNodeOutputMaterial" },
    { id := "gloss", idname := "ShaderNodeBsdfGlossy" },
    { id := "lines", idname := "ShaderNodeTexImage", image := some { name := "lines.png" } }]
  connections := [
    { source := ⟨"gloss", "BSDF"⟩, target := ⟨"out", "Surface"⟩ },
    { source := ⟨"lines", "Color"⟩, target := ⟨"gloss", "Roughness"⟩ }]

/-- A world whose surface is diffuse. -/
def NodeTree.matteSky : NodeTree where
  nodes := [
    { id := "out", idname := "ShaderNodeOutputWorld" },
    { id := "matte", idname := "ShaderNodeBsdfDiffuse" }]
  connections := [{ source := ⟨"matte", "BSDF"⟩, target := ⟨"out", "Surface"⟩ }]

/-- The scene of both. -/
def Scene.sparse : Scene where
  materials := [{ name := "Chrome", nodeTree := some .chrome }]
  world := some { nodeTree := some .matteSky }

/-- The chrome lacks its color before it is filled, and fails for its scratches afterwards; the
world asks for a strength that its surface does not have. -/
theorem Scene.fillDefaults_suffices_sparse :
    (NodeTree.chrome.surface .phong "Chrome").outcome = .error (.missingInput "gloss" "Color") ∧
      (∃ error, (NodeTree.chrome.fillDefaults.surface .phong "Chrome").outcome = .error error ∧
        ∀ node socket, error ≠ .missingInput node socket) ∧
      ∃ world, Scene.sparse.fillDefaults.world = some world ∧
        world.background.outcome = .error (.missingInput "matte" "Strength") ∧
        world.AsksForStrength (.missingInput "matte" "Strength") := by
  obtain ⟨hmaterials, hworlds⟩ := Scene.fillDefaults_suffices Scene.sparse
  have hscratches : (NodeTree.chrome.fillDefaults.surface .phong "Chrome").outcome =
      .error (.unsupportedFeature .linkedPhongRoughness) := rfl
  refine ⟨rfl, ⟨_, hscratches, ?_⟩, _, rfl, rfl, ?_⟩
  · exact (hmaterials _ List.mem_cons_self _ rfl .phong "Chrome" _ hscratches).1
  · exact (hworlds _ rfl _ rfl).2 ⟨_, _, rfl⟩

end ShadingExport
