import ShadingExport.Proofs.Graph.Sockets

/-!
# Literals in place of links

An input of a tree is given a literal in place of its link (`NodeTree.withLiteral`): the literal is
listed at the node, and no connection leads to the input any more. A tree that makes a graph still
makes one then, the graph with the same change made to the inputs of its nodes
(`Graph.ofTree_withLiteral`).
-/

namespace ShadingExport

namespace Table

variable {α : Type}

/-- The table without the entry of a key. -/
def without (table : Table α) (key : String) : Table α :=
  ⟨table.entries.filter (·.1 ≠ key), List.Pairwise.filter _ table.increasing⟩

/-- Nothing is found under the key that is left out, and nothing changes elsewhere. -/
@[simp] theorem get?_without (table : Table α) (key query : String) :
    (table.without key).get? query = if query = key then none else table.get? query := by
  show (table.entries.filter (·.1 ≠ key)).lookup query = _
  rw [get?]
  induction table.entries with
  | nil => simp
  | cons head rest ih =>
    by_cases hhead : head.1 = key
    · rw [List.filter_cons_of_neg (by simpa using hhead), ih, lookup_cons_eq]
      by_cases hquery : query = key
      · rw [if_pos hquery, if_pos hquery]
      · rw [if_neg hquery, if_neg hquery, if_neg (hhead ▸ hquery)]
    · rw [List.filter_cons_of_pos (by simpa using hhead), lookup_cons_eq, ih, lookup_cons_eq]
      by_cases hquery : query = head.1
      · rw [if_pos hquery, if_neg (hquery ▸ hhead), if_pos hquery]
      · rw [if_neg hquery, if_neg hquery]

end Table

/-! ## Nodes -/

namespace ShadingNode

/-- The node with a literal in place of the link of an input. -/
def withLiteral (node : ShadingNode) (name : String) (literal : Literal) : ShadingNode :=
  { node with
    literals := node.literals.insert name literal
    links := node.links.without name }

variable (node : ShadingNode) (name : String) (literal : Literal)

@[simp] theorem id_withLiteral : (node.withLiteral name literal).id = node.id := rfl

@[simp] theorem kind_withLiteral : (node.withLiteral name literal).kind = node.kind := rfl

@[simp] theorem distribution_withLiteral :
    (node.withLiteral name literal).distribution = node.distribution := rfl

/-- The input holds the literal and has no link; the other inputs are as before. -/
@[simp] theorem input?_withLiteral (query : String) :
    (node.withLiteral name literal).input? query =
      if query = name then some ⟨name, some literal, none⟩ else node.input? query := by
  unfold input? withLiteral
  by_cases hquery : query = name
  · subst hquery
    simp
  · simp [hquery]

theorem getInput_withLiteral_self :
    (node.withLiteral name literal).getInput name = .ok ⟨name, some literal, none⟩ := by
  simp [getInput]

theorem getInput_withLiteral_of_ne {query : String} (hquery : query ≠ name) :
    (node.withLiteral name literal).getInput query = node.getInput query := by
  simp [getInput, hquery]

end ShadingNode

/-! ## Trees and graphs -/

/-- A change of some elements that keeps their keys keeps the list of keys. -/
theorem map_key_map_ite {α κ : Type} (key : α → κ) (change : α → α) {condition : α → Prop}
    [DecidablePred condition] (hkey : ∀ element, key (change element) = key element)
    (elements : List α) :
    (elements.map fun element => if condition element then change element else element).map key =
      elements.map key := by
  rw [List.map_map]
  refine List.map_congr_left fun element _ => ?_
  rw [Function.comp_apply]
  by_cases hcondition : condition element
  · rw [if_pos hcondition, hkey]
  · rw [if_neg hcondition]

/-- The node of a tree with a literal at an input. -/
def Node.withLiteral (node : Node) (name : String) (literal : Literal) : Node :=
  { node with inputs := node.inputs.insert name literal }

/-- The tree with a literal in place of the connection that leads to an input. -/
def NodeTree.withLiteral (tree : NodeTree) (input : Endpoint) (literal : Literal) : NodeTree where
  nodes := tree.nodes.map fun node =>
    if node.id = input.node then node.withLiteral input.socket literal else node
  connections := tree.connections.filter (·.target ≠ input)

/-- The graph with a literal in place of the link of an input. -/
def Graph.withLiteral (graph : Graph) (input : Endpoint) (literal : Literal) : Graph :=
  ⟨graph.nodes.map fun node =>
    if node.id = input.node then node.withLiteral input.socket literal else node⟩

/-- The ids of the nodes stay. -/
theorem Graph.map_id_nodes_withLiteral {graph : Graph} (input : Endpoint) (literal : Literal) :
    (graph.withLiteral input literal).nodes.map ShadingNode.id =
      graph.nodes.map ShadingNode.id :=
  map_key_map_ite ShadingNode.id (·.withLiteral input.socket literal) (fun _ => rfl) graph.nodes

namespace NodeTree

variable {tree : NodeTree} (input : Endpoint) (literal : Literal)

@[simp] theorem ids_withLiteral : (tree.withLiteral input literal).ids = tree.ids := by
  rw [ids, ids, withLiteral]
  exact map_key_map_ite Node.id (·.withLiteral input.socket literal) (fun _ => rfl) tree.nodes

/-- Fewer connections do no harm. -/
theorem WellFormed.withLiteral (h : tree.WellFormed) :
    (tree.withLiteral input literal).WellFormed where
  nodup_ids := by
    rw [ids_withLiteral]
    exact h.nodup_ids
  mem_ids := by
    intro connection hconnection
    rw [ids_withLiteral]
    exact h.mem_ids connection (List.mem_of_mem_filter hconnection)
  nodup_targets := h.nodup_targets.sublist (List.filter_sublist.map _)

/-- The connections that stay are all but the one that leads to the input. -/
theorem WellFormed.linksTo_withLiteral (h : tree.WellFormed) (id : String) :
    (tree.withLiteral input literal).linksTo id =
      if id = input.node then (tree.linksTo id).without input.socket else tree.linksTo id := by
  have hlinks : ∀ name link, ((tree.withLiteral input literal).linksTo id).get? name = some link ↔
      (⟨id, name⟩ : Endpoint) ≠ input ∧ (tree.linksTo id).get? name = some link := by
    intro name link
    rw [(h.withLiteral input literal).get?_linksTo_eq_some_iff, h.get?_linksTo_eq_some_iff]
    simp only [NodeTree.withLiteral, List.mem_filter, decide_eq_true_eq]
    constructor
    · rintro ⟨connection, ⟨hconnection, hother⟩, htarget, hlink⟩
      exact ⟨htarget ▸ hother, connection, hconnection, htarget, hlink⟩
    · rintro ⟨hother, connection, hconnection, htarget, hlink⟩
      exact ⟨connection, ⟨hconnection, htarget ▸ hother⟩, htarget, hlink⟩
  -- Tables are told apart by their look-ups, and a link is lost only at the input itself.
  refine Table.ext_get? fun name => Option.ext fun link => ?_
  rw [hlinks]
  obtain ⟨node, socket⟩ := input
  by_cases hid : id = node
  · by_cases hname : name = socket
    · simp [hid, hname]
    · simp [hid, hname]
  · simp [hid]

/-- The nodes of the graph of the changed tree are changed alike. -/
theorem WellFormed.shadingNode_withLiteral (h : tree.WellFormed) (node : Node) :
    (tree.withLiteral input literal).shadingNode
        (if node.id = input.node then node.withLiteral input.socket literal else node) =
      if node.id = input.node then (tree.shadingNode node).withLiteral input.socket literal
      else tree.shadingNode node := by
  have hlinks := h.linksTo_withLiteral input literal node.id
  by_cases hid : node.id = input.node
  · rw [if_pos hid] at hlinks
    rw [if_pos hid, if_pos hid]
    show ShadingNode.mk node.id _ _ ((tree.withLiteral input literal).linksTo node.id) _ _ = _
    rw [hlinks]
    rfl
  · rw [if_neg hid] at hlinks
    rw [if_neg hid, if_neg hid]
    show ShadingNode.mk node.id _ _ ((tree.withLiteral input literal).linksTo node.id) _ _ = _
    rw [hlinks]
    rfl

/-- The graph of the changed tree is the changed graph. -/
theorem WellFormed.graph_withLiteral (h : tree.WellFormed) :
    (tree.withLiteral input literal).graph = tree.graph.withLiteral input literal := by
  show Graph.mk (List.map _ (List.map _ tree.nodes)) = Graph.mk (List.map _ (List.map _ tree.nodes))
  rw [List.map_map, List.map_map]
  exact congrArg Graph.mk (List.map_congr_left fun node _ =>
    h.shadingNode_withLiteral input literal node)

end NodeTree

/-- **A literal in place of a link keeps trees well formed**, and changes their graphs alike. -/
theorem Graph.ofTree_withLiteral {tree : NodeTree} {graph : Graph}
    (hgraph : Graph.ofTree tree = .ok graph) (input : Endpoint) (literal : Literal) :
    Graph.ofTree (tree.withLiteral input literal) = .ok (graph.withLiteral input literal) := by
  obtain ⟨hwellFormed, rfl⟩ := ofTree_eq_ok_iff.mp hgraph
  exact ofTree_eq_ok_iff.mpr
    ⟨hwellFormed.withLiteral input literal, (hwellFormed.graph_withLiteral input literal).symm⟩

end ShadingExport
