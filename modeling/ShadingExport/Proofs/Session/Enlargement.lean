import ShadingExport.Proofs.Graph.Construction
import ShadingExport.Proofs.Surface.Locality
import ShadingExport.Session.Basic

/-!
# Trees with more nodes

A tree enlarges another one (`NodeTree.Enlarges`) if it lists the nodes and connections of that tree
in any order, and besides them other nodes, none of them an output, with connections that lead to
them. The enlarged tree is well formed if the other one is (`NodeTree.Enlarges.wellFormed`), the
graph of the other one is embedded in its graph (`NodeTree.Enlarges.embedsIn`), and a material
with the enlarged tree is written as with the other one (`Session.writeTranslation_enlarged`).
-/

namespace ShadingExport

namespace NodeTree

/-- A tree that has, in any order, the nodes and connections of another one and besides them other
nodes that are no outputs, with connections that lead to these. -/
structure Enlarges (larger tree : NodeTree) (added : List Node) (extra : List Connection) :
    Prop where
  /-- The nodes are those of the tree and the added ones, in any order. -/
  nodes_perm : larger.nodes.Perm (tree.nodes ++ added)
  /-- The connections are those of the tree and the extra ones, in any order. -/
  connections_perm : larger.connections.Perm (tree.connections ++ extra)
  /-- No added node is an output. -/
  not_output : ∀ node ∈ added, NodeKind.ofIdname node.idname ≠ .output
  /-- The added nodes have distinct ids. -/
  nodup_added : (added.map Node.id).Nodup
  /-- No added node has an id of the tree. -/
  fresh : ∀ node ∈ added, node.id ∉ tree.ids
  /-- The extra connections lead to added nodes. -/
  target_added : ∀ connection ∈ extra, connection.target.node ∈ added.map Node.id
  /-- The extra connections come from any nodes. -/
  source_mem : ∀ connection ∈ extra, connection.source.node ∈ larger.ids
  /-- No two extra connections lead to one input. -/
  nodup_targets : (extra.map Connection.target).Nodup

namespace Enlarges

variable {larger tree : NodeTree} {added : List Node} {extra : List Connection}
  {mode : GlossyMode}

variable (h : larger.Enlarges tree added extra)
include h

/-! ## The enlarged tree -/

theorem ids_perm : larger.ids.Perm (tree.ids ++ added.map Node.id) := by
  simpa only [ids, List.map_append] using h.nodes_perm.map Node.id

theorem notMem_added_of_mem_ids {id : String} (hid : id ∈ tree.ids) :
    id ∉ added.map Node.id := by
  intro hadded
  obtain ⟨node, hnode, rfl⟩ := List.mem_map.mp hadded
  exact h.fresh node hnode hid

/-- **An enlarged tree is well formed** if the other one is. -/
theorem wellFormed (htree : tree.WellFormed) : larger.WellFormed where
  nodup_ids := by
    rw [h.ids_perm.nodup_iff]
    exact List.Nodup.append htree.nodup_ids h.nodup_added fun _ => h.notMem_added_of_mem_ids
  mem_ids := by
    intro connection hconnection
    rcases List.mem_append.mp (h.connections_perm.mem_iff.mp hconnection) with hold | hnew
    · have hends := htree.mem_ids connection hold
      exact ⟨h.ids_perm.mem_iff.mpr (List.mem_append_left _ hends.1),
        h.ids_perm.mem_iff.mpr (List.mem_append_left _ hends.2)⟩
    · exact ⟨h.source_mem connection hnew,
        h.ids_perm.mem_iff.mpr (List.mem_append_right _ (h.target_added connection hnew))⟩
  nodup_targets := by
    rw [(h.connections_perm.map _).nodup_iff, List.map_append]
    refine List.Nodup.append htree.nodup_targets h.nodup_targets fun target hold hnew => ?_
    -- A connection of the tree leads to a node of the tree, an extra one does not.
    obtain ⟨first, hfirst, rfl⟩ := List.mem_map.mp hold
    obtain ⟨second, hsecond, htarget⟩ := List.mem_map.mp hnew
    refine h.notMem_added_of_mem_ids (htree.mem_ids first hfirst).2 ?_
    rw [← htarget]
    exact h.target_added second hsecond

/-- No extra connection leads to a node of the tree, so its links stay. -/
theorem linksTo_eq (htree : tree.WellFormed) {id : String} (hid : id ∈ tree.ids) :
    larger.linksTo id = tree.linksTo id := by
  refine Table.ext_get? fun name => Option.ext fun link => ?_
  rw [(h.wellFormed htree).get?_linksTo_eq_some_iff, htree.get?_linksTo_eq_some_iff]
  refine exists_congr fun connection => and_congr_left fun ⟨htarget, _⟩ => ?_
  rw [h.connections_perm.mem_iff, List.mem_append, or_iff_left]
  intro hnew
  refine h.notMem_added_of_mem_ids hid ?_
  have hadded := h.target_added connection hnew
  rwa [htarget] at hadded

theorem shadingNode_eq (htree : tree.WellFormed) {node : Node} (hnode : node ∈ tree.nodes) :
    larger.shadingNode node = tree.shadingNode node := by
  rw [shadingNode, h.linksTo_eq htree (List.mem_map_of_mem hnode)]
  rfl

/-! ## The enlarged graph -/

theorem nodes_graph_perm (htree : tree.WellFormed) :
    larger.graph.nodes.Perm (tree.graph.nodes ++ added.map larger.shadingNode) := by
  have hnodes : tree.nodes.map larger.shadingNode = tree.graph.nodes :=
    List.map_congr_left fun node hnode => h.shadingNode_eq htree hnode
  rw [← hnodes, ← List.map_append]
  exact h.nodes_perm.map _

/-- **The graph of the tree is embedded in that of the enlarged tree.** -/
theorem embedsIn (htree : tree.WellFormed) : tree.graph.EmbedsIn larger.graph := by
  intro node hnode name socket hsocket
  have hlinks := Graph.linksResolve_of_ofTree (Graph.ofTree_eq_ok_iff.mpr ⟨htree, rfl⟩)
  unfold Graph.upstream?
  cases hlink : socket.link with
  | none => rfl
  | some link =>
    rw [ShadingNode.link_of_input? hsocket] at hlink
    obtain ⟨source, hsource⟩ := Option.isSome_iff_exists.mp (hlinks node hnode name link hlink)
    have hid : source.id = link.node := by simpa using List.find?_some hsource
    -- The source has its id to itself in the enlarged graph as well.
    have hlarger : source ∈ larger.graph.nodes :=
      (h.nodes_graph_perm htree).mem_iff.mpr
        (List.mem_append_left _ (Graph.mem_nodes_of_node? hsource))
    have hnodup : (larger.graph.nodes.map ShadingNode.id).Nodup := by
      rw [Graph.map_id_nodes_graph]
      exact (h.wellFormed htree).nodup_ids
    rw [Option.bind_some, Option.bind_some, hsource, ← hid]
    exact find?_eq_some_of_nodup_map hnodup hlarger

theorem size_le (htree : tree.WellFormed) : tree.graph.size ≤ larger.graph.size := by
  rw [Graph.size, Graph.size, (h.nodes_graph_perm htree).length_eq, List.length_append]
  exact Nat.le_add_right _ _

/-- The outputs are those of the tree, since no added node is one; a single one has no order. -/
theorem outputs_eq (htree : tree.WellFormed) (houtput : tree.graph.outputs.length ≤ 1) :
    larger.graph.outputs = tree.graph.outputs := by
  have hadded : (added.map larger.shadingNode).filter (·.kind == .output) = [] := by
    simp only [List.filter_eq_nil_iff, List.forall_mem_map, beq_iff_eq]
    exact h.not_output
  have hperm : larger.graph.outputs.Perm tree.graph.outputs := by
    have hfilter := (h.nodes_graph_perm htree).filter (·.kind == .output)
    rwa [List.filter_append, hadded, List.append_nil] at hfilter
  match hlist : tree.graph.outputs with
  | [] => exact (hlist ▸ hperm).eq_nil
  | [output] => exact List.perm_singleton.mp (hlist ▸ hperm)
  | first :: second :: rest =>
    rw [hlist] at houtput
    exact absurd houtput (by simp)

theorem surfaceNode_eq (htree : tree.WellFormed) (houtput : tree.graph.outputs.length ≤ 1) :
    larger.graph.surfaceNode = tree.graph.surfaceNode := by
  have hsame : larger.graph.output? = tree.graph.output? := by
    unfold Graph.output?
    rw [h.outputs_eq htree houtput]
  unfold Graph.surfaceNode
  rw [hsame]
  cases hfound : tree.graph.output? with
  | none => rfl
  | some output =>
    dsimp only
    rw [(h.embedsIn htree).feeding?_eq (Graph.mem_nodes_of_output? hfound)]

/-- The surface of the enlarged tree is translated as that of the tree. -/
theorem surface_eq (htree : tree.WellFormed) (hacyclic : tree.graph.MixAcyclic)
    (houtput : tree.graph.outputs.length ≤ 1) (name : String) :
    larger.surface mode name = tree.surface mode name := by
  have hlarger : Graph.ofTree larger = .ok larger.graph :=
    Graph.ofTree_eq_ok_iff.mpr ⟨h.wellFormed htree, rfl⟩
  have hgraph : Graph.ofTree tree = .ok tree.graph := Graph.ofTree_eq_ok_iff.mpr ⟨htree, rfl⟩
  rw [surface, surface, hlarger, hgraph]
  show (liftM larger.graph.surfaceNode >>= fun node => larger.graph.surface mode node (some name)) =
    liftM tree.graph.surfaceNode >>= fun node => tree.graph.surface mode node (some name)
  rw [h.surfaceNode_eq htree houtput]
  exact Translation.bind_congr_ok fun node hnode =>
    (h.embedsIn htree).surface_eq (Graph.mem_nodes_of_surfaceNode hnode) hacyclic
      (h.size_le htree) (some name)

end Enlarges

end NodeTree

/-- **Only what the output reaches matters, and not the order in which a tree lists it**: let a tree
make a graph with at most one output where no mixture contains itself, and let another tree list its
nodes and connections in any order, together with other nodes that are no outputs and connections
that lead to these. The other tree makes a graph too, and writing a material with either of them
gives the same session, with the same record, reports and textures in the same order. -/
theorem Session.writeTranslation_enlarged {tree larger : NodeTree} {graph : Graph}
    {added : List Node} {extra : List Connection} (hgraph : Graph.ofTree tree = .ok graph)
    (hacyclic : graph.MixAcyclic) (houtput : graph.outputs.length ≤ 1)
    (henlarges : larger.Enlarges tree added extra) (session : Session) (material : HostMaterial) :
    (∃ graph', Graph.ofTree larger = .ok graph') ∧
      session.writeTranslation { material with nodeTree := some larger } =
        session.writeTranslation { material with nodeTree := some tree } := by
  obtain ⟨htree, rfl⟩ := Graph.ofTree_eq_ok_iff.mp hgraph
  refine ⟨⟨_, Graph.ofTree_eq_ok_iff.mpr ⟨henlarges.wellFormed htree, rfl⟩⟩, ?_⟩
  have htranslate : HostMaterial.translate { material with nodeTree := some larger } =
      HostMaterial.translate { material with nodeTree := some tree } := by
    funext mode
    unfold HostMaterial.translate HostMaterial.activeTree?
    cases material.useNodes with
    | false => rfl
    | true => simp only [if_true, henlarges.surface_eq htree hacyclic houtput]
  unfold Session.writeTranslation
  rw [htranslate]
  rfl

/-- A diffuse surface with a texture. -/
def NodeTree.tile : NodeTree where
  nodes := [
    { id := "out", idname := "ShaderNodeOutputMaterial" },
    { id := "glaze", idname := "ShaderNodeBsdfDiffuse" },
    { id := "pattern", idname := "ShaderNodeTexImage", image := some { name := "pattern.png" } }]
  connections := [
    { source := ⟨"glaze", "BSDF"⟩, target := ⟨"out", "Surface"⟩ },
    { source := ⟨"pattern", "Color"⟩, target := ⟨"glaze", "Color"⟩ }]

/-- A mixture of the surface of the tile with itself. -/
def NodeTree.spareNodes : List Node := [{ id := "spare", idname := "ShaderNodeMixShader" }]

/-- The connections of the mixture. -/
def NodeTree.spareConnections : List Connection := [
  { source := ⟨"glaze", "BSDF"⟩, target := ⟨"spare", "Shader"⟩ },
  { source := ⟨"spare", "Shader"⟩, target := ⟨"spare", "Shader_001"⟩ }]

/-- The tile and the mixture, listed backwards. -/
def NodeTree.shuffledTile : NodeTree where
  nodes := (NodeTree.tile.nodes ++ NodeTree.spareNodes).reverse
  connections := (NodeTree.tile.connections ++ NodeTree.spareConnections).reverse

/-- The tile may be listed backwards, among nodes that it does not reach; that one of these contains
itself does not matter. -/
theorem Session.writeTranslation_shuffledTile :
    Graph.ofTree .tile = .ok NodeTree.tile.graph ∧ NodeTree.tile.graph.MixAcyclic ∧
      NodeTree.tile.graph.outputs.length ≤ 1 ∧
      NodeTree.shuffledTile.Enlarges .tile NodeTree.spareNodes NodeTree.spareConnections ∧
      (Session.start {}).writeTranslation { name := "Tile", nodeTree := some .shuffledTile } =
        (Session.start {}).writeTranslation { name := "Tile", nodeTree := some .tile } ∧
      ∃ record, (NodeTree.tile.surface .metal "Tile").outcome = .ok record := by
  have hgraph : Graph.ofTree .tile = .ok NodeTree.tile.graph := rfl
  have hacyclic : NodeTree.tile.graph.MixAcyclic := by
    refine Graph.mixAcyclic_of_rank (fun _ => 0) ?_
    have hkinds : ∀ node ∈ NodeTree.tile.graph.nodes, node.kind ≠ .mix := by decide
    exact fun node hnode side hside => absurd hside.1 (hkinds node hnode)
  have henlarges : NodeTree.shuffledTile.Enlarges .tile NodeTree.spareNodes
      NodeTree.spareConnections :=
    { nodes_perm := List.reverse_perm _
      connections_perm := List.reverse_perm _
      not_output := by decide
      nodup_added := by decide
      fresh := by decide
      target_added := by decide
      source_mem := by decide
      nodup_targets := by decide }
  refine ⟨hgraph, hacyclic, by decide, henlarges, ?_, _, rfl⟩
  exact (Session.writeTranslation_enlarged hgraph hacyclic (by decide) henlarges (Session.start {})
    { name := "Tile" }).2

end ShadingExport
