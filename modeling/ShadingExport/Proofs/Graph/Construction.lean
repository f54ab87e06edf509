import ShadingExport.Proofs.Graph.Sockets
import Mathlib.Data.Set.Function

/-!
# The graph of a tree

The graph of a well-formed tree represents it (`Graph.Represents`): it has the nodes of the tree in
their order, an input wherever a literal is listed or a connection leads, the listed literals as
defaults, and the connections as links. Nothing is lost and nothing added: the connections of the
tree are the linked inputs of the graph, one for one. Other trees are refused with the defect that
they have (`Graph.ofTree_represents_wellFormed`).
-/

namespace ShadingExport

/-- A node of a graph stands for a node of a tree: it has the attributes of that node, and inputs
made of the literals listed there and of the connections that lead there. -/
structure ShadingNode.Represents (shading : ShadingNode) (tree : NodeTree) (node : Node) :
    Prop where
  /-- The id is the same. -/
  id_eq : shading.id = node.id
  /-- The kind is that of the host type. -/
  kind_eq : shading.kind = .ofIdname node.idname
  /-- The attributes are the same. -/
  params_eq : shading.params = node.params
  /-- The image is the same. -/
  image_eq : shading.image = node.image
  /-- An input is listed at the node, or a connection leads to it. -/
  isSome_input?_iff : ∀ name, (shading.input? name).isSome ↔
    (node.inputs.get? name).isSome ∨
      ∃ connection ∈ tree.connections, connection.target = ⟨node.id, name⟩
  /-- An input has its own name, and the literal that is listed under it. -/
  default_eq : ∀ name socket, shading.input? name = some socket →
    socket.name = name ∧ socket.default = node.inputs.get? name
  /-- The link of an input is the source of the connection that leads to it. -/
  link_iff : ∀ name socket, shading.input? name = some socket → ∀ link,
    socket.link = some link ↔
      ∃ connection ∈ tree.connections, connection.target = ⟨node.id, name⟩ ∧
        link = ⟨connection.source.node, connection.source.socket⟩

namespace Graph

variable {graph : Graph} {tree : NodeTree}

/-- The inputs of a graph that are linked, each as the id of its node with its name. -/
def linkedInputs (graph : Graph) : Set Endpoint :=
  {input | ∃ node ∈ graph.nodes, node.id = input.node ∧
    ∃ socket, node.input? input.socket = some socket ∧ socket.isLinked}

/-- The graph has the nodes of the tree, and its connections as links. -/
structure Represents (graph : Graph) (tree : NodeTree) : Prop where
  /-- The nodes are those of the tree, in its order. -/
  nodes : List.Forall₂ (fun shading node => shading.Represents tree node) graph.nodes tree.nodes
  /-- An id belongs to one node. -/
  nodup_ids : (graph.nodes.map ShadingNode.id).Nodup
  /-- What feeds an input is the node that its link names. -/
  upstream_eq : ∀ node ∈ graph.nodes, ∀ name socket, node.input? name = some socket →
    (graph.upstream? socket).map ShadingNode.id = socket.link.map Link.node
  /-- Each connection leads to one linked input, and each linked input has one connection. -/
  bijOn_target : Set.BijOn (fun index : Fin tree.connections.length =>
    tree.connections[index].target) Set.univ graph.linkedInputs

/-- The nodes of the graph of a tree have the ids of the tree. -/
theorem map_id_nodes_graph (tree : NodeTree) : tree.graph.nodes.map ShadingNode.id = tree.ids := by
  rw [NodeTree.graph, NodeTree.ids, List.map_map]
  rfl

/-- Where links resolve, they lead to the node of their id. -/
theorem map_id_upstream? (hlinks : graph.LinksResolve) {node : ShadingNode}
    (hnode : node ∈ graph.nodes) {name : String} {socket : Socket}
    (hsocket : node.input? name = some socket) :
    (graph.upstream? socket).map ShadingNode.id = socket.link.map Link.node := by
  rw [upstream?]
  cases hlink : socket.link with
  | none => rfl
  | some link =>
    rw [ShadingNode.link_of_input? hsocket] at hlink
    obtain ⟨source, hsource⟩ := Option.isSome_iff_exists.mp (hlinks node hnode name link hlink)
    have hid : source.id = link.node := by simpa using List.find?_some hsource
    rw [Option.bind_some, hsource, Option.map_some, hid, Option.map_some]

end Graph

namespace NodeTree.WellFormed

variable {tree : NodeTree}

/-- An input of a node of a well-formed tree is linked if a connection leads there. -/
theorem isSome_get?_links_iff (h : tree.WellFormed) (node : Node) (name : String) :
    ((tree.shadingNode node).links.get? name).isSome ↔
      ∃ connection ∈ tree.connections, connection.target = ⟨node.id, name⟩ := by
  rw [Option.isSome_iff_exists]
  constructor
  · rintro ⟨link, hlink⟩
    obtain ⟨connection, hconnection, htarget, -⟩ := h.get?_linksTo_eq_some_iff.mp hlink
    exact ⟨connection, hconnection, htarget⟩
  · rintro ⟨connection, hconnection, htarget⟩
    exact ⟨_, h.get?_linksTo_eq_some_iff.mpr ⟨connection, hconnection, htarget, rfl⟩⟩

theorem represents_shadingNode (h : tree.WellFormed) (node : Node) :
    (tree.shadingNode node).Represents tree node where
  id_eq := rfl
  kind_eq := rfl
  params_eq := rfl
  image_eq := rfl
  isSome_input?_iff := by
    intro name
    rw [ShadingNode.isSome_input?, Bool.or_eq_true, h.isSome_get?_links_iff]
    rfl
  default_eq := by
    intro name socket hsocket
    exact ⟨ShadingNode.name_of_input? hsocket, ShadingNode.default_of_input? hsocket⟩
  link_iff := by
    intro name socket hsocket link
    rw [ShadingNode.link_of_input? hsocket]
    exact h.get?_linksTo_eq_some_iff

/-- The linked inputs of the graph of a well-formed tree are the targets of its connections. -/
theorem mem_linkedInputs_iff (h : tree.WellFormed) {input : Endpoint} :
    input ∈ tree.graph.linkedInputs ↔
      ∃ connection ∈ tree.connections, connection.target = input := by
  constructor
  · rintro ⟨shading, hshading, hid, socket, hsocket, hlinked⟩
    obtain ⟨node, -, rfl⟩ := List.mem_map.mp hshading
    rw [Socket.isLinked, ShadingNode.link_of_input? hsocket, h.isSome_get?_links_iff] at hlinked
    rwa [show node.id = input.node from hid] at hlinked
  · rintro ⟨connection, hconnection, rfl⟩
    -- The target of a connection is a node, and its input exists because it is linked.
    obtain ⟨node, hnode, hid⟩ := List.mem_map.mp (h.mem_ids connection hconnection).2
    have hlinked : ((tree.shadingNode node).links.get? connection.target.socket).isSome :=
      (h.isSome_get?_links_iff node _).mpr ⟨connection, hconnection, by rw [hid]⟩
    obtain ⟨socket, hsocket⟩ : ∃ socket,
        (tree.shadingNode node).input? connection.target.socket = some socket := by
      rw [← Option.isSome_iff_exists, ShadingNode.isSome_input?, hlinked, Bool.or_true]
    refine ⟨tree.shadingNode node, List.mem_map_of_mem hnode, hid, socket, hsocket, ?_⟩
    rwa [Socket.isLinked, ShadingNode.link_of_input? hsocket]

/-- **The connections of a well-formed tree are the linked inputs of its graph**, one for one. -/
theorem bijOn_target (h : tree.WellFormed) :
    Set.BijOn (fun index : Fin tree.connections.length => tree.connections[index].target)
      Set.univ tree.graph.linkedInputs := by
  refine ⟨fun index _ => ?_, fun first _ second _ heq => ?_, fun input hinput => ?_⟩
  · exact h.mem_linkedInputs_iff.mpr ⟨_, List.getElem_mem _, rfl⟩
  · have hnodup := List.nodup_iff_injective_getElem.mp h.nodup_targets
    have hsame : (⟨first, by simp⟩ : Fin (tree.connections.map Connection.target).length) =
        ⟨second, by simp⟩ := hnodup (by simpa using heq)
    exact Fin.ext (Fin.mk.inj hsame)
  · obtain ⟨connection, hconnection, rfl⟩ := h.mem_linkedInputs_iff.mp hinput
    obtain ⟨index, hindex, rfl⟩ := List.mem_iff_getElem.mp hconnection
    exact ⟨⟨index, hindex⟩, Set.mem_univ _, rfl⟩

/-- **The graph of a well-formed tree represents it.** -/
theorem represents_graph (h : tree.WellFormed) : tree.graph.Represents tree where
  nodes := by
    rw [NodeTree.graph, List.forall₂_map_left_iff, List.forall₂_same]
    exact fun node _ => h.represents_shadingNode node
  nodup_ids := by
    rw [Graph.map_id_nodes_graph]
    exact h.nodup_ids
  upstream_eq := fun _ hnode _ _ hsocket =>
    Graph.map_id_upstream? (Graph.linksResolve_of_ofTree (Graph.ofTree_eq_ok_iff.mpr ⟨h, rfl⟩))
      hnode hsocket
  bijOn_target := h.bijOn_target

end NodeTree.WellFormed

/-- The nodes of a graph that is made of a tree have distinct ids. -/
theorem Graph.nodup_ids_of_ofTree {tree : NodeTree} {graph : Graph}
    (h : Graph.ofTree tree = .ok graph) : (graph.nodes.map ShadingNode.id).Nodup := by
  obtain ⟨hwellFormed, rfl⟩ := ofTree_eq_ok_iff.mp h
  rw [map_id_nodes_graph]
  exact hwellFormed.nodup_ids

/-- **Graphs are made of the well-formed trees, and lose nothing of them**: a tree makes a graph
exactly if its ids are distinct, its connections run between its nodes and no two of them lead to
one input; the graph then has the nodes and the connections of the tree, and otherwise the error
tells a defect of the tree. -/
theorem Graph.ofTree_represents_wellFormed (tree : NodeTree) :
    ((∃ graph, Graph.ofTree tree = .ok graph) ↔ tree.WellFormed) ∧
      match Graph.ofTree tree with
      | .error error => ∃ defect, tree.defect? = some defect ∧ error = .malformedGraph defect
      | .ok graph => graph.Represents tree := by
  refine ⟨⟨?_, fun h => ⟨_, Graph.ofTree_eq_ok_iff.mpr ⟨h, rfl⟩⟩⟩, ?_⟩
  · rintro ⟨graph, hgraph⟩
    exact (Graph.ofTree_eq_ok_iff.mp hgraph).1
  · cases hgraph : Graph.ofTree tree with
    | ok graph =>
      obtain ⟨h, rfl⟩ := Graph.ofTree_eq_ok_iff.mp hgraph
      exact h.represents_graph
    | error error =>
      unfold Graph.ofTree at hgraph
      cases hdefect : tree.defect? with
      | some defect =>
        rw [hdefect] at hgraph
        cases hgraph
        exact ⟨defect, rfl, rfl⟩
      | none =>
        rw [hdefect] at hgraph
        cases hgraph

end ShadingExport
