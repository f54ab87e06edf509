import ShadingExport.Proofs.Graph.WellFormed

/-!
# Reading sockets, and graphs whose links resolve

The readers of sockets and nodes give a value exactly where the table they read has one of the
right shape (`Socket.getNumber_eq_ok`, `ShadingNode.getInput_eq_ok` and their siblings). In the
graph of a well-formed tree every link leads to a node (`Graph.linksResolve_of_ofTree`), so that an
input without an upstream node is an input without a link (`Graph.upstream?_eq_none_iff`).
-/

namespace ShadingExport

/-! ## What readers give -/

/-- Everything but a matrix is read as a color. -/
theorem Literal.exists_color?_eq_some_iff {literal : Literal} :
    (∃ color, literal.color? = some color) ↔ ∀ value, literal ≠ .matrix value := by
  rw [← Option.ne_none_iff_exists', ne_eq, color?_eq_none_iff, not_exists]

namespace Socket

variable {socket : Socket}

theorem getNumber_eq_ok {value : Float} :
    socket.getNumber = .ok value ↔ socket.default = some (.scalar value) := by
  unfold getNumber getLiteral
  cases h : socket.default with
  | none => simp [bind, Except.bind]
  | some literal => cases literal <;> simp [bind, Except.bind, Literal.scalar?]

theorem getColor_eq_ok {color : Color} :
    socket.getColor = .ok color ↔
      ∃ literal, socket.default = some literal ∧ literal.color? = some color := by
  unfold getColor getLiteral
  cases h : socket.default with
  | none => simp [bind, Except.bind]
  | some literal =>
    simp only [bind, Except.bind, Option.some.injEq, exists_eq_left']
    cases literal.color? <;> simp

end Socket

namespace ShadingNode

variable {node : ShadingNode}

theorem getInput_eq_ok {name : String} {socket : Socket} :
    node.getInput name = .ok socket ↔ node.input? name = some socket := by
  unfold getInput
  cases node.input? name <;> simp

theorem getImage_eq_ok {image : Image} : node.getImage = .ok image ↔ node.image = some image := by
  unfold getImage
  cases node.image <;> simp

theorem constantColor_eq_ok {color : Color} :
    node.constantColor = .ok color ↔
      ∃ literal, node.attributeLiteral? "color" = some literal ∧ literal.color? = some color := by
  unfold constantColor
  rw [← Option.bind_eq_some_iff]
  cases (node.attributeLiteral? "color").bind Literal.color? <;> simp

end ShadingNode

/-! ## Links that lead to nodes -/

namespace Graph

variable {graph : Graph}

/-- Every link of a node of the graph leads to a node of the graph. -/
def LinksResolve (graph : Graph) : Prop :=
  ∀ node ∈ graph.nodes, ∀ name link, node.links.get? name = some link →
    (graph.node? link.node).isSome

theorem mem_nodes_of_node? {id : String} {node : ShadingNode} (h : graph.node? id = some node) :
    node ∈ graph.nodes :=
  List.mem_of_find?_eq_some h

theorem mem_nodes_of_upstream? {socket : Socket} {source : ShadingNode}
    (h : graph.upstream? socket = some source) : source ∈ graph.nodes := by
  obtain ⟨link, -, hnode⟩ := Option.bind_eq_some_iff.mp h
  exact mem_nodes_of_node? hnode

theorem mem_nodes_of_feeding? {node source : ShadingNode} {name : String}
    (h : graph.feeding? node name = some source) : source ∈ graph.nodes := by
  obtain ⟨socket, -, hsource⟩ := Option.bind_eq_some_iff.mp h
  exact mem_nodes_of_upstream? hsource

theorem mem_nodes_of_output? {output : ShadingNode} (h : graph.output? = some output) :
    output ∈ graph.nodes := by
  have hmem : output ∈ graph.outputs := by
    unfold output? at h
    split at h
    · cases h
    · next first later houtputs =>
      rw [houtputs]
      split at h
      · cases h
        exact List.mem_cons_self
      · rcases Option.or_eq_some_iff.mp h with hlater | ⟨-, hfirst⟩
        · exact List.mem_cons_of_mem _ (List.mem_of_find?_eq_some hlater)
        · cases hfirst
          exact List.mem_cons_self
  exact (List.mem_filter.mp hmem).1

/-- Where links resolve, an input without an upstream node is one without a link. -/
theorem upstream?_eq_none_iff (hlinks : graph.LinksResolve) {node : ShadingNode}
    (hnode : node ∈ graph.nodes) {name : String} {socket : Socket}
    (hsocket : node.input? name = some socket) :
    graph.upstream? socket = none ↔ socket.link = none := by
  rw [upstream?, Option.bind_eq_none_iff]
  constructor
  · intro h
    cases hlink : socket.link with
    | none => rfl
    | some link =>
      -- The link of the socket is one of the node, so it leads somewhere.
      rw [ShadingNode.link_of_input? hsocket] at hlink
      have hresolves := hlinks node hnode name link hlink
      rw [h link (by rw [ShadingNode.link_of_input? hsocket, hlink])] at hresolves
      cases hresolves
  · rintro h link hlink
    rw [h] at hlink
    cases hlink

/-- **In the graph of a well-formed tree every link leads to a node**: each link comes from a
connection, both ends of which are ids of the tree. -/
theorem linksResolve_of_ofTree {tree : NodeTree} {graph : Graph}
    (h : Graph.ofTree tree = .ok graph) : graph.LinksResolve := by
  obtain ⟨hwellFormed, rfl⟩ := ofTree_eq_ok_iff.mp h
  intro node hnode name link hlink
  obtain ⟨treeNode, -, rfl⟩ := List.mem_map.mp hnode
  -- The link comes from a connection, and both ends of that are known.
  obtain ⟨connection, hconnection, -, rfl⟩ := hwellFormed.get?_linksTo_eq_some_iff.mp hlink
  have hids := hwellFormed.mem_ids connection hconnection
  obtain ⟨source, hsource, hid⟩ := List.mem_map.mp hids.1
  rw [node?, List.find?_isSome]
  exact ⟨tree.shadingNode source, List.mem_map_of_mem hsource, beq_iff_eq.mpr hid⟩

end Graph

end ShadingExport
