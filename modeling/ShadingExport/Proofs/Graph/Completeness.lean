import ShadingExport.Proofs.Graph.Sockets
import ShadingExport.Snapshot.NodeType

/-!
# Filled trees store the literals that are needed

Each kind of node has inputs that its translation cannot do without (`NodeKind.neededInputs`), and
the list of node types has a default for each of them (`NodeType.exists_default`). So the nodes of a
filled tree store a literal at every such input (`NodeTree.complete_fillDefaults`), and find it
there, linked or not (`Graph.exists_input_of_needed`).
-/

namespace ShadingExport

/-- The inputs without which a node of the kind has no translation. -/
def NodeKind.neededInputs : NodeKind → List String
  | .glossy => ["Color", "Roughness"]
  | .glass => ["IOR", "Roughness"]
  | .emission => ["Strength", "Color"]
  | .background => ["Strength", "Color"]
  | .mix => ["Fac"]
  | .normalMap => ["Color", "Strength"]
  | .fresnel => ["IOR"]
  | .mapping => ["Rotation"]
  | _ => []

/-- The node types have defaults for all inputs that are needed. -/
theorem NodeType.isSome_get?_of_mem_all : ∀ type ∈ NodeType.all,
    ∀ name ∈ (NodeKind.ofIdname type.idname).neededInputs, (type.inputs.get? name).isSome := by
  decide +kernel

/-- A kind that needs an input is one of the node types, and has a default for the input. -/
theorem NodeType.exists_default {idname name : String}
    (h : name ∈ (NodeKind.ofIdname idname).neededInputs) :
    ∃ type, NodeType.find? idname = some type ∧ (type.inputs.get? name).isSome := by
  have hknown : (NodeType.find? idname).isSome := by
    unfold NodeKind.ofIdname at h
    -- Each name is found; under any other name, nothing is needed.
    split at h
    all_goals first | rfl | cases h
  obtain ⟨type, htype⟩ := Option.isSome_iff_exists.mp hknown
  have hmem : type ∈ NodeType.all := List.mem_of_find?_eq_some htype
  refine ⟨type, htype, NodeType.isSome_get?_of_mem_all type hmem name ?_⟩
  rwa [NodeType.idname_of_find? htype]

theorem Node.idname_fillDefaults (node : Node) : node.fillDefaults.idname = node.idname := by
  unfold fillDefaults
  split <;> rfl

/-- A filled node stores a literal at every input that it needs. -/
theorem Node.isSome_get?_fillDefaults {node : Node} {name : String}
    (h : name ∈ (NodeKind.ofIdname node.idname).neededInputs) :
    (node.fillDefaults.inputs.get? name).isSome := by
  obtain ⟨type, htype, hdefault⟩ := NodeType.exists_default h
  unfold fillDefaults
  rw [htype]
  dsimp only
  rw [Table.get?_fill, Option.isSome_or, hdefault, Bool.or_true]

/-- Every node stores a literal at every input that it needs. -/
def Graph.Complete (graph : Graph) : Prop :=
  ∀ node ∈ graph.nodes, ∀ name ∈ node.kind.neededInputs, (node.literals.get? name).isSome

/-- **The graph of a filled tree is complete.** -/
theorem NodeTree.complete_fillDefaults {tree : NodeTree} {graph : Graph}
    (h : Graph.ofTree tree.fillDefaults = .ok graph) : graph.Complete := by
  obtain ⟨-, rfl⟩ := Graph.ofTree_eq_ok_iff.mp h
  intro shading hshading name hname
  obtain ⟨filled, hfilled, rfl⟩ := List.mem_map.mp hshading
  obtain ⟨node, -, rfl⟩ := List.mem_map.mp hfilled
  refine Node.isSome_get?_fillDefaults ?_
  rwa [← Node.idname_fillDefaults]

/-- In a complete graph, an input that is needed is there, with a literal, linked or not. -/
theorem Graph.exists_input_of_needed {graph : Graph} {node : ShadingNode}
    (hcomplete : graph.Complete) (hnode : node ∈ graph.nodes) {name : String}
    (hname : name ∈ node.kind.neededInputs) :
    ∃ socket, node.input? name = some socket ∧ socket.default.isSome := by
  have hliteral := hcomplete node hnode name hname
  obtain ⟨socket, hsocket⟩ : ∃ socket, node.input? name = some socket := by
    rw [← Option.isSome_iff_exists, ShadingNode.isSome_input?, hliteral, Bool.true_or]
  refine ⟨socket, hsocket, ?_⟩
  rwa [ShadingNode.default_of_input? hsocket]

theorem HostMaterial.activeTree?_fillDefaults (material : HostMaterial) :
    material.fillDefaults.activeTree? = material.activeTree?.map NodeTree.fillDefaults := by
  unfold activeTree? fillDefaults
  cases material.useNodes <;> rfl

theorem World.activeTree?_fillDefaults (world : World) :
    world.fillDefaults.activeTree? = world.activeTree?.map NodeTree.fillDefaults := by
  unfold activeTree? fillDefaults
  cases world.useNodes <;> rfl

end ShadingExport
