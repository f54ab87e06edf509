import ShadingExport.Proofs.Graph.Construction

/-!
# Graphs by position

A graph can be kept with positions in place of ids: an `IndexedGraph` has its nodes one after the
other, an index from ids to positions, and links that name positions. It is put together in two
passes over a tree: one stores the nodes, the other attaches the connections, makes inputs where
none are listed, and stops at the first defect. A position is used without a check, which is a
fault of its own (`Fault.outOfBounds`).

The passes follow the graph of the part of the tree that they have seen (`IndexedGraph.Shows`), and
so they fail exactly with the defect of the tree, never read beyond the nodes, and leave a graph in
which every position leads to its node (`IndexedGraph.ofTree_sound`).
-/

namespace ShadingExport

/-- An output by the position of its node. -/
structure IndexedLink where
  /-- The position of the node. -/
  position : Nat
  /-- The name of the output socket. -/
  output : String

/-- An input as it is stored at a node. -/
structure IndexedSocket where
  /-- The name of the socket. -/
  name : String
  /-- The literal stored at the socket. -/
  default : Option Literal
  /-- The output that feeds the socket. -/
  link : Option IndexedLink

/-- A node with its inputs. -/
structure IndexedNode where
  /-- The id of the node. -/
  id : String
  /-- The kind of the node. -/
  kind : NodeKind
  /-- The inputs by their names. -/
  inputs : Table IndexedSocket
  /-- The attributes of the node. -/
  params : Table Parameter
  /-- The image that the node samples. -/
  image : Option Image

/-- Nodes by position, and the positions by id. -/
structure IndexedGraph where
  /-- The nodes. -/
  nodes : List IndexedNode
  /-- The positions. -/
  index : Table Nat

/-- Why a tree makes no graph. -/
inductive Fault where
  /-- The tree is refused. -/
  | refused (error : TranslationError)
  /-- A position beyond the nodes was read. -/
  | outOfBounds (position : Nat)

/-! ## Two passes over a tree -/

/-- A node of a tree before it is linked: the listed literals are its inputs. -/
def IndexedNode.ofNode (node : Node) : IndexedNode :=
  { id := node.id
    kind := .ofIdname node.idname
    inputs := .ofList (node.inputs.entries.map fun entry =>
      (entry.1, ⟨entry.1, some entry.2, none⟩))
    params := node.params
    image := node.image }

namespace IndexedNode

/-- The input of a name, which comes into being if there is none. -/
def socket (node : IndexedNode) (name : String) : IndexedSocket :=
  (node.inputs.get? name).getD ⟨name, none, none⟩

/-- The node with a link at the input of a name. -/
def attach (node : IndexedNode) (name : String) (link : IndexedLink) : IndexedNode :=
  { node with inputs := node.inputs.insert name { node.socket name with link := some link } }

end IndexedNode

namespace IndexedGraph

/-- Stores a node behind the others. -/
def store (graph : IndexedGraph) (node : Node) : Except Fault IndexedGraph :=
  if (graph.index.get? node.id).isSome then
    .error (.refused (.malformedGraph (.duplicateNode node.id)))
  else
    .ok
      { nodes := graph.nodes ++ [.ofNode node]
        index := graph.index.insert node.id graph.nodes.length }

/-- Attaches a connection to its target. -/
def connect (graph : IndexedGraph) (connection : Connection) : Except Fault IndexedGraph :=
  match graph.index.get? connection.source.node, graph.index.get? connection.target.node with
  | some source, some target =>
    match graph.nodes[target]? with
    | none => .error (.outOfBounds target)
    | some node =>
      let name := connection.target.socket
      if (node.socket name).link.isSome then
        .error (.refused (.malformedGraph (.doubleLink connection.target.node name)))
      else
        .ok
          { graph with
            nodes := graph.nodes.set target (node.attach name ⟨source, connection.source.socket⟩) }
  | _, _ =>
    .error (.refused (.malformedGraph
      (.missingNode connection.source.node connection.target.node)))

/-- The graph of a tree: first the nodes, then the connections. -/
def ofTree (tree : NodeTree) : Except Fault IndexedGraph := do
  let unlinked ← tree.nodes.foldlM store ⟨[], .empty⟩
  tree.connections.foldlM connect unlinked

/-- The node of an id. -/
def node? (graph : IndexedGraph) (id : String) : Option IndexedNode :=
  (graph.index.get? id).bind fun position => graph.nodes[position]?

/-- The node that feeds a socket. -/
def upstream? (graph : IndexedGraph) (socket : IndexedSocket) : Option IndexedNode :=
  socket.link.bind fun link => graph.nodes[link.position]?

/-- Every position that a graph knows leads to its node, and every input is in order. -/
structure Sound (graph : IndexedGraph) : Prop where
  /-- The position of a link is one of a node. -/
  position_lt : ∀ node ∈ graph.nodes, ∀ name socket, node.inputs.get? name = some socket →
    ∀ link, socket.link = some link → link.position < graph.nodes.length
  /-- Something feeds every input that is linked. -/
  isSome_upstream? : ∀ node ∈ graph.nodes, ∀ name socket, node.inputs.get? name = some socket →
    (graph.upstream? socket).isSome = socket.link.isSome
  /-- Each id of a node has one position, and each position one id. -/
  bijOn_index : Set.BijOn graph.index.get? {id | ∃ node ∈ graph.nodes, node.id = id}
    {position | ∃ below < graph.nodes.length, position = some below}
  /-- Other ids have no position. -/
  index_eq_none : ∀ id, (∀ node ∈ graph.nodes, node.id ≠ id) → graph.index.get? id = none
  /-- The position of an id is that of the node with the id. -/
  node?_eq_some_iff : ∀ id node, graph.node? id = some node ↔ node ∈ graph.nodes ∧ node.id = id
  /-- An input is stored under its own name. -/
  name_eq : ∀ node ∈ graph.nodes, ∀ name socket, node.inputs.get? name = some socket →
    socket.name = name
  /-- An input that is not linked has a literal. -/
  default_isSome : ∀ node ∈ graph.nodes, ∀ name socket, node.inputs.get? name = some socket →
    socket.link = none → socket.default.isSome

end IndexedGraph

/-! ## What the passes follow -/

/-- A stored input shows an input: it has the same name, literal and output, and the position of its
link is that of the node which the link names. -/
structure IndexedSocket.Shows (stored : IndexedSocket) (index : Table Nat) (socket : Socket) :
    Prop where
  /-- The name is the same. -/
  name_eq : stored.name = socket.name
  /-- The literal is the same. -/
  default_eq : stored.default = socket.default
  /-- The link leads to the position of the node that it names. -/
  link_eq : (stored.link.map fun link => (some link.position, link.output)) =
    socket.link.map fun link => (index.get? link.node, link.output)

/-- A stored node shows a node: the attributes are the same, and the inputs show the inputs. -/
structure IndexedNode.Shows (stored : IndexedNode) (index : Table Nat) (node : ShadingNode) :
    Prop where
  /-- The id is the same. -/
  id_eq : stored.id = node.id
  /-- The kind is the same. -/
  kind_eq : stored.kind = node.kind
  /-- The attributes are the same. -/
  params_eq : stored.params = node.params
  /-- The image is the same. -/
  image_eq : stored.image = node.image
  /-- There are the same inputs. -/
  inputs : ∀ name, Option.Rel (fun stored socket => IndexedSocket.Shows stored index socket)
    (stored.inputs.get? name) (node.input? name)

/-- A stored graph shows a graph: position by position its nodes show the nodes, and the index holds
the positions. -/
structure IndexedGraph.Shows (stored : IndexedGraph) (graph : Graph) : Prop where
  /-- The nodes show the nodes. -/
  nodes : ∀ position : Nat,
    Option.Rel (fun stored' node => IndexedNode.Shows stored' stored.index node)
      stored.nodes[position]? graph.nodes[position]?
  /-- The index holds the positions. -/
  index_eq : ∀ id, stored.index.get? id = graph.position? id

section Related

variable {α β : Type} {related : α → β → Prop} {first : Option α} {second : Option β}

/-- Where the first of two related options has a value, the second has a related one. -/
theorem exists_right_of_rel (h : Option.Rel related first second) {value : α}
    (hvalue : first = some value) : ∃ other, second = some other ∧ related value other := by
  subst hvalue
  cases h with | some hrelated
  exact ⟨_, rfl, hrelated⟩

/-- Where the second of two related options has a value, the first has a related one. -/
theorem exists_left_of_rel (h : Option.Rel related first second) {value : β}
    (hvalue : second = some value) : ∃ other, first = some other ∧ related other value := by
  subst hvalue
  cases h with | some hrelated
  exact ⟨_, rfl, hrelated⟩

/-- Where the first of two related options is empty, so is the second. -/
theorem eq_none_of_rel (h : Option.Rel related first second) (hnone : first = none) :
    second = none := by
  subst hnone
  cases h
  rfl

end Related

/-! ## The pass over the nodes -/

/-- The input of a node before it is linked is the listed literal. -/
theorem IndexedNode.get?_inputs_ofNode (node : Node) (name : String) :
    (ofNode node).inputs.get? name =
      (node.inputs.get? name).map fun literal => ⟨name, some literal, none⟩ :=
  Table.get?_ofList_map (fun name literal => (⟨name, some literal, none⟩ : IndexedSocket))
    node.inputs name

namespace IndexedGraph

variable {stored : IndexedGraph}

/-- A stored graph holds nodes of a tree that are not linked yet, with their positions. -/
structure Holds (stored : IndexedGraph) (nodes : List Node) : Prop where
  /-- The nodes are those of the tree. -/
  nodes_eq : stored.nodes = nodes.map .ofNode
  /-- The index holds the positions. -/
  index_eq : ∀ id, stored.index.get? id = nodes.findIdx? (·.id == id)

/-- **Storing a node keeps the positions**, if its id is new. -/
theorem Holds.store {nodes : List Node} (h : stored.Holds nodes) {node : Node}
    (hnew : node.id ∉ nodes.map Node.id) :
    ∃ longer, stored.store node = .ok longer ∧ longer.Holds (nodes ++ [node]) := by
  have habsent : stored.index.get? node.id = none := by
    rw [h.index_eq, List.findIdx?_eq_none_iff]
    intro other hother
    exact beq_eq_false_iff_ne.mpr fun hid => hnew (hid ▸ List.mem_map_of_mem hother)
  -- A search for the new id misses the nodes before it, and their number is its position.
  refine ⟨_, by rw [IndexedGraph.store, habsent]; rfl, ?_, ?_⟩
  · rw [h.nodes_eq, List.map_append, List.map_singleton]
  · intro id
    rw [Table.get?_insert, List.findIdx?_append, ← h.index_eq, h.nodes_eq, List.length_map]
    by_cases hid : id = node.id
    · subst hid
      simp [habsent, List.findIdx?_cons]
    · simp [hid, Ne.symm hid, List.findIdx?_cons]

/-- **The pass over the nodes** stops at the first repeated id, and otherwise leaves all nodes with
their positions. -/
theorem Holds.foldlM_store {earlier : List Node} (h : stored.Holds earlier) {seen : List String}
    (hseen : ∀ id, id ∈ seen ↔ id ∈ earlier.map Node.id) (nodes : List Node) :
    match NodeTree.repeatedId? seen nodes with
    | some id => nodes.foldlM IndexedGraph.store stored =
        .error (.refused (.malformedGraph (.duplicateNode id)))
    | none => ∃ longer, nodes.foldlM IndexedGraph.store stored = .ok longer ∧
        longer.Holds (earlier ++ nodes) := by
  -- One step moves a node from the list to those that are held and its id to those seen.
  induction nodes generalizing stored earlier seen with
  | nil => exact ⟨stored, rfl, by rwa [List.append_nil]⟩
  | cons node nodes ih =>
    rw [NodeTree.repeatedId?, List.foldlM_cons]
    by_cases hrepeated : node.id ∈ seen
    · have hpresent : (stored.index.get? node.id).isSome := by
        obtain ⟨other, hother, hid⟩ := List.mem_map.mp ((hseen node.id).mp hrepeated)
        rw [h.index_eq, List.findIdx?_isSome, List.any_eq_true]
        exact ⟨other, hother, beq_iff_eq.mpr hid⟩
      simp only [List.contains_eq_mem, hrepeated, decide_true, if_true]
      rw [IndexedGraph.store, if_pos hpresent]
      rfl
    · obtain ⟨longer, hlonger, hholds⟩ := h.store (mt (hseen node.id).mpr hrepeated)
      simp only [List.contains_eq_mem, hrepeated, decide_false, Bool.false_eq_true, if_false]
      rw [hlonger]
      have hlater : ∀ id, id ∈ node.id :: seen ↔ id ∈ (earlier ++ [node]).map Node.id := by
        intro id
        simp [hseen id, or_comm, eq_comm]
      have hnext := ih hholds hlater
      rwa [List.append_assoc] at hnext

end IndexedGraph

/-! ## The pass over the connections -/

/-- The positions in the graph of a tree are those in the tree. -/
theorem Graph.position?_graph (tree : NodeTree) (id : String) :
    tree.graph.position? id = tree.nodes.findIdx? (·.id == id) := by
  rw [position?, NodeTree.graph, List.findIdx?_map]
  rfl

namespace NodeTree

variable {tree : NodeTree} {connection : Connection}

/-- The tree with one more connection. -/
def concat (tree : NodeTree) (connection : Connection) : NodeTree :=
  { tree with connections := tree.connections ++ [connection] }

/-- One more connection is one more link of its target. -/
theorem linksTo_concat (id : String) :
    (tree.concat connection).linksTo id =
      if connection.target.node = id then
        (tree.linksTo id).insert connection.target.socket
          ⟨connection.source.node, connection.source.socket⟩
      else tree.linksTo id := by
  unfold linksTo concat
  by_cases hid : connection.target.node = id
  · simp [hid, Table.ofList, List.filter_append, List.foldl_append]
  · simp [hid, List.filter_append]

/-- The input that one more connection leads to gets its link, and the others are as before. -/
theorem input?_concat {node : Node} (hid : node.id = connection.target.node) (name : String) :
    ((tree.concat connection).shadingNode node).input? name =
      if name = connection.target.socket then
        some ⟨name, node.inputs.get? name,
          some ⟨connection.source.node, connection.source.socket⟩⟩
      else (tree.shadingNode node).input? name := by
  simp only [ShadingNode.input?, shadingNode, linksTo_concat, if_pos hid.symm]
  by_cases hname : name = connection.target.socket <;> simp [hname]

/-- Nodes that one more connection does not lead to are as before. -/
theorem shadingNode_concat_of_ne {node : Node} (hid : node.id ≠ connection.target.node) :
    (tree.concat connection).shadingNode node = tree.shadingNode node := by
  simp only [shadingNode, linksTo_concat, if_neg hid.symm]

end NodeTree

/-- Distinct positions have distinct ids. -/
theorem NodeTree.WellFormed.eq_of_id_eq {tree : NodeTree} (h : tree.WellFormed)
    {first second : Nat} {node other : Node} (hfirst : tree.nodes[first]? = some node)
    (hsecond : tree.nodes[second]? = some other) (hid : node.id = other.id) : first = second := by
  have hlt : first < tree.ids.length := by
    rw [NodeTree.ids, List.length_map]
    exact (List.getElem?_eq_some_iff.mp hfirst).1
  refine (List.getElem?_inj hlt h.nodup_ids).mp ?_
  rw [NodeTree.ids, List.getElem?_map, List.getElem?_map, hfirst, hsecond, Option.map_some,
    Option.map_some, hid]

/-- A connection between nodes to an input that is not linked keeps a tree well formed. -/
theorem NodeTree.WellFormed.concat {tree : NodeTree} (h : tree.WellFormed)
    {connection : Connection} (hsource : connection.source.node ∈ tree.ids)
    (htarget : connection.target.node ∈ tree.ids)
    (hnew : ∀ earlier ∈ tree.connections, earlier.target ≠ connection.target) :
    (tree.concat connection).WellFormed where
  nodup_ids := h.nodup_ids
  mem_ids := by
    intro other hother
    rcases List.mem_append.mp hother with hearlier | hlast
    · exact h.mem_ids other hearlier
    · obtain rfl := List.mem_singleton.mp hlast
      exact ⟨hsource, htarget⟩
  nodup_targets := by
    rw [NodeTree.concat, List.map_append, List.map_singleton, ← List.concat_eq_append]
    refine h.nodup_targets.concat fun hmem => ?_
    obtain ⟨earlier, hearlier, heq⟩ := List.mem_map.mp hmem
    exact hnew earlier hearlier heq

namespace IndexedNode.Shows

variable {stored : IndexedNode} {index : Table Nat}

/-- What is stored at a node under a name, or comes into being there, has the name, the literal of
the node and a link if the node has one. -/
theorem socket {node : ShadingNode} (h : stored.Shows index node) (name : String) :
    (stored.socket name).name = name ∧
      (stored.socket name).default = node.literals.get? name ∧
      (stored.socket name).link.isSome = (node.links.get? name).isSome := by
  cases hstored : stored.inputs.get? name with
  | none =>
    -- Where nothing is stored, the node has no input and so neither a literal nor a link.
    have habsent := ShadingNode.isSome_input? node name
    rw [eq_none_of_rel (h.inputs name) hstored, Option.isSome_none, eq_comm,
      Bool.or_eq_false_iff, Option.isSome_eq_false_iff, Option.isNone_iff_eq_none] at habsent
    rw [IndexedNode.socket, hstored, Option.getD_none]
    exact ⟨rfl, habsent.1.symm, habsent.2.symm⟩
  | some socket =>
    obtain ⟨input, hinput, hshows⟩ := exists_right_of_rel (h.inputs name) hstored
    have hlinked := congrArg Option.isSome hshows.link_eq
    rw [Option.isSome_map, Option.isSome_map] at hlinked
    rw [IndexedNode.socket, hstored, Option.getD_some]
    refine ⟨hshows.name_eq.trans (ShadingNode.name_of_input? hinput),
      hshows.default_eq.trans (ShadingNode.default_of_input? hinput), ?_⟩
    rw [hlinked, ShadingNode.link_of_input? hinput]

/-- **A node with one more link shows the node of the tree with one more connection.** -/
theorem attach {tree : NodeTree} {node : Node} (h : stored.Shows index (tree.shadingNode node))
    {connection : Connection} (hid : node.id = connection.target.node) {source : Nat}
    (hsource : index.get? connection.source.node = some source) :
    (stored.attach connection.target.socket ⟨source, connection.source.socket⟩).Shows index
      ((tree.concat connection).shadingNode node) where
  id_eq := h.id_eq
  kind_eq := h.kind_eq
  params_eq := h.params_eq
  image_eq := h.image_eq
  inputs := by
    intro name
    rw [NodeTree.input?_concat hid, IndexedNode.attach, Table.get?_insert]
    by_cases hname : name = connection.target.socket
    · subst hname
      obtain ⟨hsocket, hdefault, -⟩ := h.socket connection.target.socket
      rw [if_pos rfl, if_pos rfl]
      exact .some ⟨hsocket, hdefault, by simp [hsource]⟩
    · rw [if_neg hname, if_neg hname]
      exact h.inputs name

end IndexedNode.Shows

namespace IndexedGraph

variable {stored : IndexedGraph} {tree : NodeTree}

/-- Nodes that are not linked show the nodes of the tree without its connections. -/
theorem Holds.shows {nodes : List Node} (h : stored.Holds nodes) :
    stored.Shows (NodeTree.graph ⟨nodes, []⟩) where
  nodes := by
    intro position
    rw [h.nodes_eq, NodeTree.graph, List.getElem?_map, List.getElem?_map]
    cases nodes[position]? with
    | none => exact .none
    | some node =>
      refine .some ⟨rfl, rfl, rfl, rfl, fun name => ?_⟩
      rw [IndexedNode.get?_inputs_ofNode]
      have hlinks : (NodeTree.shadingNode ⟨nodes, []⟩ node).links.get? name = none := rfl
      have hliterals : (NodeTree.shadingNode ⟨nodes, []⟩ node).literals = node.inputs := rfl
      rw [ShadingNode.input?, hlinks, hliterals]
      cases node.inputs.get? name with
      | none => exact .none
      | some literal => exact .some ⟨rfl, rfl, rfl⟩
  index_eq := by
    intro id
    rw [h.index_eq, Graph.position?_graph]

/-- An id of the tree has a position, and there the node of the id is stored. -/
theorem Shows.exists_node (h : stored.Shows tree.graph) {id : String} (hid : id ∈ tree.ids) :
    ∃ (position : Nat) (stored' : IndexedNode) (node : Node), stored.index.get? id = some position ∧
      stored.nodes[position]? = some stored' ∧ tree.nodes[position]? = some node ∧ node.id = id ∧
      stored'.Shows stored.index (tree.shadingNode node) := by
  obtain ⟨node, hmem, hnode⟩ := List.mem_map.mp hid
  have hfound : (tree.nodes.findIdx? (·.id == id)).isSome := by
    rw [List.findIdx?_isSome, List.any_eq_true]
    exact ⟨node, hmem, beq_iff_eq.mpr hnode⟩
  obtain ⟨position, hposition⟩ := Option.isSome_iff_exists.mp hfound
  obtain ⟨hlt, hthere, -⟩ := List.findIdx?_eq_some_iff_getElem.mp hposition
  have hnode : tree.nodes[position]? = some tree.nodes[position] := List.getElem?_eq_getElem hlt
  have hshown : tree.graph.nodes[position]? = some (tree.shadingNode tree.nodes[position]) := by
    rw [NodeTree.graph, List.getElem?_map, hnode, Option.map_some]
  obtain ⟨stored', hstored, hshows⟩ := exists_left_of_rel (h.nodes position) hshown
  refine ⟨position, stored', tree.nodes[position], ?_, hstored, hnode, ?_, hshows⟩
  · rw [h.index_eq, Graph.position?_graph, hposition]
  · exact beq_iff_eq.mp hthere

/-- Other ids have no position. -/
theorem Shows.index_eq_none (h : stored.Shows tree.graph) {id : String} (hid : id ∉ tree.ids) :
    stored.index.get? id = none := by
  rw [h.index_eq, Graph.position?_graph, List.findIdx?_eq_none_iff]
  intro node hnode
  exact beq_eq_false_iff_ne.mpr fun heq => hid (heq ▸ List.mem_map_of_mem hnode)

/-- A connection with an end that is no node is refused. -/
theorem Shows.connect_of_notMem (h : stored.Shows tree.graph) {connection : Connection}
    (hends : ¬(connection.source.node ∈ tree.ids ∧ connection.target.node ∈ tree.ids)) :
    stored.connect connection = .error (.refused (.malformedGraph
      (.missingNode connection.source.node connection.target.node))) := by
  unfold connect
  by_cases hsource : connection.source.node ∈ tree.ids
  · rw [h.index_eq_none fun htarget => hends ⟨hsource, htarget⟩]
    cases stored.index.get? connection.source.node <;> rfl
  · rw [h.index_eq_none hsource]

/-- A second connection to an input is refused. -/
theorem Shows.connect_of_linked (h : stored.Shows tree.graph) (hwellFormed : tree.WellFormed)
    {connection : Connection} (hsource : connection.source.node ∈ tree.ids)
    (htarget : connection.target.node ∈ tree.ids)
    (hlinked : ∃ earlier ∈ tree.connections, earlier.target = connection.target) :
    stored.connect connection = .error (.refused (.malformedGraph
      (.doubleLink connection.target.node connection.target.socket))) := by
  obtain ⟨source, -, -, hsourceIndex, -⟩ := h.exists_node hsource
  obtain ⟨target, stored', node, htargetIndex, hstored, -, hid, hshows⟩ := h.exists_node htarget
  have hlink : ((tree.shadingNode node).links.get? connection.target.socket).isSome := by
    rw [hwellFormed.isSome_get?_links_iff, hid]
    exact hlinked
  rw [← (hshows.socket connection.target.socket).2.2] at hlink
  simp only [connect, hsourceIndex, htargetIndex, hstored, if_pos hlink]

/-- **Attaching a connection to an input that is not linked** leads from the graph of a tree to the
graph of the tree with the connection, and reads nothing beyond the nodes. -/
theorem Shows.connect (h : stored.Shows tree.graph) (hwellFormed : tree.WellFormed)
    {connection : Connection} (hsource : connection.source.node ∈ tree.ids)
    (htarget : connection.target.node ∈ tree.ids)
    (hnew : ∀ earlier ∈ tree.connections, earlier.target ≠ connection.target) :
    ∃ linked, stored.connect connection = .ok linked ∧
      linked.Shows (tree.concat connection).graph := by
  obtain ⟨source, -, -, hsourceIndex, -⟩ := h.exists_node hsource
  obtain ⟨target, stored', node, htargetIndex, hstored, hnode, hid, hshows⟩ := h.exists_node htarget
  have hunlinked : ¬((tree.shadingNode node).links.get? connection.target.socket).isSome := by
    rw [hwellFormed.isSome_get?_links_iff, hid]
    rintro ⟨earlier, hearlier, heq⟩
    exact hnew earlier hearlier heq
  rw [← (hshows.socket connection.target.socket).2.2] at hunlinked
  -- Both positions are known and the input is free, so the last branch is taken.
  let linked : IndexedGraph :=
    { stored with
      nodes := stored.nodes.set target
        (stored'.attach connection.target.socket ⟨source, connection.source.socket⟩) }
  have hconnect : stored.connect connection = .ok linked := by
    simp only [IndexedGraph.connect, hsourceIndex, htargetIndex, hstored, if_neg hunlinked, linked]
  refine ⟨linked, hconnect, fun position => ?_, fun id => ?_⟩
  · have hgraph := h.nodes position
    rw [NodeTree.graph, List.getElem?_map] at hgraph ⊢
    by_cases hposition : target = position
    · subst hposition
      rw [List.getElem?_set_self (List.getElem?_eq_some_iff.mp hstored).1,
        show (tree.concat connection).nodes[target]? = some node from hnode]
      exact .some (hshows.attach hid hsourceIndex)
    · rw [List.getElem?_set_ne hposition]
      cases hother : tree.nodes[position]? with
      | none =>
        rw [hother] at hgraph
        rwa [show (tree.concat connection).nodes[position]? = none from hother]
      | some other =>
        -- Distinct positions have distinct ids, so the connection does not lead here.
        have hne : other.id ≠ connection.target.node := fun heq =>
          hposition (hwellFormed.eq_of_id_eq hnode hother (hid.trans heq.symm))
        rw [hother] at hgraph
        rw [show (tree.concat connection).nodes[position]? = some other from hother,
          Option.map_some, NodeTree.shadingNode_concat_of_ne hne]
        exact hgraph
  · rw [Graph.position?_graph]
    exact (h.index_eq id).trans (Graph.position?_graph tree id)

/-- **The pass over the connections** stops at the first defect, and otherwise leads to the graph of
the tree with all of them. The part of the tree that it has seen stays well formed. -/
theorem Shows.foldlM_connect (h : stored.Shows tree.graph) (hwellFormed : tree.WellFormed)
    {targets : List Endpoint}
    (htargets : ∀ target, target ∈ targets ↔ ∃ earlier ∈ tree.connections, earlier.target = target)
    (connections : List Connection) :
    match NodeTree.connectionDefect? tree.ids targets connections with
    | some defect => connections.foldlM IndexedGraph.connect stored =
        .error (.refused (.malformedGraph defect))
    | none => ∃ linked, connections.foldlM IndexedGraph.connect stored = .ok linked ∧
        linked.Shows
          (NodeTree.graph { tree with connections := tree.connections ++ connections }) := by
  -- The tree grows by one connection in each step, and so do the targets seen.
  induction connections generalizing stored tree targets with
  | nil => exact ⟨stored, rfl, by rwa [List.append_nil]⟩
  | cons connection connections ih =>
    rw [NodeTree.connectionDefect?, List.foldlM_cons]
    by_cases hends : connection.source.node ∈ tree.ids ∧ connection.target.node ∈ tree.ids
    · obtain ⟨hsource, htarget⟩ := hends
      simp only [List.contains_eq_mem, hsource, htarget, decide_true, Bool.and_self, if_true]
      by_cases hdouble : connection.target ∈ targets
      · have hlinked := (htargets _).mp hdouble
        simp only [hdouble, decide_true, if_true]
        rw [h.connect_of_linked hwellFormed hsource htarget hlinked]
        rfl
      · have hnew : ∀ earlier ∈ tree.connections, earlier.target ≠ connection.target :=
          fun earlier hearlier heq => hdouble ((htargets _).mpr ⟨earlier, hearlier, heq⟩)
        obtain ⟨linked, hlinked, hshows⟩ := h.connect hwellFormed hsource htarget hnew
        have hseen : ∀ target, target ∈ connection.target :: targets ↔
            ∃ earlier ∈ (tree.concat connection).connections, earlier.target = target := by
          intro target
          rw [List.mem_cons, htargets, NodeTree.concat]
          simp only [List.mem_append, List.mem_singleton, or_and_right, exists_or, exists_eq_left]
          exact or_comm.trans (or_congr_right eq_comm)
        have hnext := ih hshows (hwellFormed.concat hsource htarget hnew) hseen
        simp only [hdouble, decide_false, Bool.false_eq_true, if_false]
        rw [hlinked]
        rwa [NodeTree.concat, List.append_assoc] at hnext
    · rw [h.connect_of_notMem hends]
      simp only [List.contains_eq_mem, Bool.and_eq_true, decide_eq_true_eq, if_neg hends]
      rfl

/-- **The graph by position shows the graph by id**: both are made of the same trees, and of other
trees both tell the same defect. No position beyond the nodes is read. -/
theorem ofTree_shows (tree : NodeTree) :
    match Graph.ofTree tree with
    | .error error => IndexedGraph.ofTree tree = .error (.refused error)
    | .ok graph => ∃ stored, IndexedGraph.ofTree tree = .ok stored ∧ stored.Shows graph := by
  have hnone : Holds ⟨[], .empty⟩ [] := ⟨rfl, fun _ => rfl⟩
  have hids : ∀ id, id ∈ ([] : List String) ↔ id ∈ ([] : List Node).map Node.id :=
    fun _ => Iff.rfl
  have hstore := hnone.foldlM_store hids tree.nodes
  unfold Graph.ofTree NodeTree.defect? IndexedGraph.ofTree
  cases hrepeated : NodeTree.repeatedId? [] tree.nodes with
  | some id =>
    rw [hrepeated] at hstore
    simp only at hstore
    rw [hstore]
    rfl
  | none =>
    rw [hrepeated] at hstore
    obtain ⟨unlinked, hunlinked, hholds⟩ := hstore
    have hwellFormed : NodeTree.WellFormed ⟨tree.nodes, []⟩ :=
      ⟨(NodeTree.repeatedId?_eq_none_iff.mp hrepeated).1, fun _ h => absurd h List.not_mem_nil,
        List.nodup_nil⟩
    have hshows : unlinked.Shows (NodeTree.graph ⟨tree.nodes, []⟩) := hholds.shows
    have htargets : ∀ target, target ∈ ([] : List Endpoint) ↔
        ∃ earlier ∈ ([] : List Connection), earlier.target = target := by simp
    have hconnect := hshows.foldlM_connect hwellFormed htargets tree.connections
    rw [show NodeTree.ids ⟨tree.nodes, []⟩ = tree.ids from rfl] at hconnect
    rw [hunlinked]
    cases hdefect : NodeTree.connectionDefect? tree.ids [] tree.connections with
    | some defect =>
      rw [hdefect] at hconnect
      exact hconnect
    | none =>
      rw [hdefect] at hconnect
      exact hconnect

/-! ## Positions lead to their nodes -/

/-- The position of an id is that of the node with the id. -/
theorem Shows.index_eq_some_iff (h : stored.Shows tree.graph) (hwellFormed : tree.WellFormed)
    {id : String} {position : Nat} :
    stored.index.get? id = some position ↔
      ∃ node, stored.nodes[position]? = some node ∧ node.id = id := by
  constructor
  · intro hindex
    have hid : id ∈ tree.ids := by
      by_contra hid
      rw [h.index_eq_none hid] at hindex
      cases hindex
    obtain ⟨there, node, shown, hthere, hnode, -, hshown, hshows⟩ := h.exists_node hid
    obtain rfl : there = position := Option.some.inj (hthere.symm.trans hindex)
    exact ⟨node, hnode, hshows.id_eq.trans hshown⟩
  · rintro ⟨node, hnode, rfl⟩
    obtain ⟨shading, hshading, hshows⟩ := exists_right_of_rel (h.nodes position) hnode
    rw [NodeTree.graph, List.getElem?_map, Option.map_eq_some_iff] at hshading
    obtain ⟨shown, hshown, rfl⟩ := hshading
    have hid : node.id = shown.id := hshows.id_eq
    have hmem : node.id ∈ tree.ids := hid ▸ List.mem_map_of_mem (List.mem_of_getElem? hshown)
    obtain ⟨there, -, other, hthere, -, hother, hsame, -⟩ := h.exists_node hmem
    rw [hthere, hwellFormed.eq_of_id_eq hother hshown (hsame.trans hid)]

/-- An input that is stored is one of the graph. -/
theorem Shows.exists_socket (h : stored.Shows tree.graph) {node : IndexedNode}
    (hnode : node ∈ stored.nodes) {name : String} {socket : IndexedSocket}
    (hsocket : node.inputs.get? name = some socket) :
    ∃ shading ∈ tree.graph.nodes, ∃ input, shading.input? name = some input ∧
      socket.Shows stored.index input := by
  obtain ⟨position, hposition⟩ := List.mem_iff_getElem?.mp hnode
  obtain ⟨shading, hshading, hshows⟩ := exists_right_of_rel (h.nodes position) hposition
  obtain ⟨input, hinput, hsame⟩ := exists_right_of_rel (hshows.inputs name) hsocket
  exact ⟨shading, List.mem_of_getElem? hshading, input, hinput, hsame⟩

/-- The position of a stored link is one of a node. -/
theorem Shows.position_lt (h : stored.Shows tree.graph) (hwellFormed : tree.WellFormed)
    {node : IndexedNode} (hnode : node ∈ stored.nodes) {name : String} {socket : IndexedSocket}
    (hsocket : node.inputs.get? name = some socket) {link : IndexedLink}
    (hlink : socket.link = some link) : link.position < stored.nodes.length := by
  obtain ⟨-, -, input, -, hshows⟩ := h.exists_socket hnode hsocket
  -- The link leads to the position that the index has for some id.
  have hindex := hshows.link_eq
  rw [hlink, Option.map_some, eq_comm, Option.map_eq_some_iff] at hindex
  obtain ⟨source, -, heq⟩ := hindex
  obtain ⟨there, hthere, -⟩ := (h.index_eq_some_iff hwellFormed).mp (Prod.mk.inj heq).1
  exact (List.getElem?_eq_some_iff.mp hthere).1

/-- **A graph by position that shows the graph of a well-formed tree is sound.** -/
theorem Shows.sound (h : stored.Shows tree.graph) (hwellFormed : tree.WellFormed) :
    stored.Sound where
  position_lt := fun _ hnode _ _ hsocket _ hlink => h.position_lt hwellFormed hnode hsocket hlink
  isSome_upstream? := by
    intro node hnode name socket hsocket
    rw [upstream?]
    cases hlink : socket.link with
    | none => rfl
    | some link => simpa using h.position_lt hwellFormed hnode hsocket hlink
  bijOn_index := by
    refine ⟨?_, ?_, ?_⟩
    · rintro id ⟨node, hnode, hid⟩
      obtain ⟨position, hposition⟩ := List.mem_iff_getElem?.mp hnode
      exact ⟨position, (List.getElem?_eq_some_iff.mp hposition).1,
        (h.index_eq_some_iff hwellFormed).mpr ⟨node, hposition, hid⟩⟩
    · rintro id ⟨node, hnode, hid⟩ other - hsame
      obtain ⟨position, hposition⟩ := List.mem_iff_getElem?.mp hnode
      have hindex := (h.index_eq_some_iff hwellFormed).mpr ⟨node, hposition, hid⟩
      obtain ⟨node', hposition', hother⟩ :=
        (h.index_eq_some_iff hwellFormed).mp (hsame.symm.trans hindex)
      obtain rfl : node = node' := Option.some.inj (hposition.symm.trans hposition')
      exact hid.symm.trans hother
    · rintro _ ⟨position, hlt, rfl⟩
      exact ⟨stored.nodes[position].id, ⟨_, List.getElem_mem hlt, rfl⟩,
        (h.index_eq_some_iff hwellFormed).mpr ⟨_, List.getElem?_eq_getElem hlt, rfl⟩⟩
  index_eq_none := by
    intro id hid
    rw [Option.eq_none_iff_forall_ne_some]
    intro position hindex
    obtain ⟨node, hnode, heq⟩ := (h.index_eq_some_iff hwellFormed).mp hindex
    exact hid node (List.mem_of_getElem? hnode) heq
  node?_eq_some_iff := by
    intro id node
    rw [node?, Option.bind_eq_some_iff]
    constructor
    · rintro ⟨position, hindex, hnode⟩
      obtain ⟨node', hnode', hid⟩ := (h.index_eq_some_iff hwellFormed).mp hindex
      obtain rfl : node = node' := Option.some.inj (hnode.symm.trans hnode')
      exact ⟨List.mem_of_getElem? hnode, hid⟩
    · rintro ⟨hmem, hid⟩
      obtain ⟨position, hposition⟩ := List.mem_iff_getElem?.mp hmem
      exact ⟨position, (h.index_eq_some_iff hwellFormed).mpr ⟨node, hposition, hid⟩, hposition⟩
  name_eq := by
    intro node hnode name socket hsocket
    obtain ⟨shading, -, input, hinput, hshows⟩ := h.exists_socket hnode hsocket
    exact hshows.name_eq.trans (ShadingNode.name_of_input? hinput)
  default_isSome := by
    intro node hnode name socket hsocket hunlinked
    obtain ⟨shading, -, input, hinput, hshows⟩ := h.exists_socket hnode hsocket
    have hlink := hshows.link_eq
    rw [hunlinked, Option.map_none, eq_comm, Option.map_eq_none_iff] at hlink
    rw [hshows.default_eq]
    exact ShadingNode.default_isSome_of_link_eq_none hinput hlink

/-- **The passes leave graphs in which every position leads to its node.** A tree that makes a graph
makes one by position too, with the same nodes, inputs and links; in it every link and every id has
a position below the number of nodes, and there its node is found. Inputs have their own names, and
those without a link have literals, so that a literal is missed only where there is a link. Other
trees are refused with the same error, and no position beyond the nodes is ever read. -/
theorem ofTree_sound (tree : NodeTree) :
    match Graph.ofTree tree with
    | .error error => IndexedGraph.ofTree tree = .error (.refused error)
    | .ok graph => graph.LinksResolve ∧
        (∃ stored, IndexedGraph.ofTree tree = .ok stored ∧ stored.Shows graph ∧ stored.Sound) ∧
        ∀ node ∈ graph.nodes, ∀ name socket, node.input? name = some socket →
          ∀ error, socket.getLiteral = .error error → socket.isLinked := by
  have hshows := ofTree_shows tree
  cases hgraph : Graph.ofTree tree with
  | error error =>
    rw [hgraph] at hshows
    exact hshows
  | ok graph =>
    rw [hgraph] at hshows
    obtain ⟨hwellFormed, rfl⟩ := Graph.ofTree_eq_ok_iff.mp hgraph
    obtain ⟨stored, hstored, hshown⟩ := hshows
    refine ⟨Graph.linksResolve_of_ofTree hgraph,
      ⟨stored, hstored, hshown, hshown.sound hwellFormed⟩, ?_⟩
    intro node _ name socket hsocket error herror
    by_contra hunlinked
    rw [Socket.isLinked, Option.not_isSome_iff_eq_none] at hunlinked
    obtain ⟨literal, hliteral⟩ := Option.isSome_iff_exists.mp
      (ShadingNode.default_isSome_of_link_eq_none hsocket hunlinked)
    rw [Socket.getLiteral, hliteral] at herror
    cases herror

end IndexedGraph

end ShadingExport
