import ShadingExport.Graph.OfTree
import ShadingExport.Proofs.DistinctKeys

/-!
# Well-formed trees

A tree is well formed (`NodeTree.WellFormed`) if its nodes have distinct ids, its connections run
between its nodes, and no two of them lead to one input. The search for a first defect finds one
exactly in the other trees (`NodeTree.defect?_eq_none_iff`), so the well-formed trees are those that
make a graph (`Graph.ofTree_eq_ok_iff`). In such a tree a link of a node is the source of the one
connection that leads to its input (`NodeTree.WellFormed.get?_linksTo_eq_some_iff`).
-/

namespace ShadingExport

namespace NodeTree

variable {tree : NodeTree}

/-- The nodes have distinct ids, the connections run between them, and no two connections lead to
one input. -/
structure WellFormed (tree : NodeTree) : Prop where
  /-- No two nodes have one id. -/
  nodup_ids : tree.ids.Nodup
  /-- Both ends of every connection are nodes of the tree. -/
  mem_ids : ∀ connection ∈ tree.connections,
    connection.source.node ∈ tree.ids ∧ connection.target.node ∈ tree.ids
  /-- No two connections lead to one input. -/
  nodup_targets : (tree.connections.map Connection.target).Nodup

/-! ## The search for a defect -/

/-- No id is repeated exactly if the ids are distinct and none of them was seen before. -/
theorem repeatedId?_eq_none_iff {seen : List String} {nodes : List Node} :
    repeatedId? seen nodes = none ↔
      (nodes.map Node.id).Nodup ∧ ∀ node ∈ nodes, node.id ∉ seen := by
  induction nodes generalizing seen with
  | nil => simp [repeatedId?]
  | cons head rest ih =>
    rw [repeatedId?, List.map_cons, List.nodup_cons, List.forall_mem_cons]
    by_cases hseen : head.id ∈ seen
    · simp [hseen]
    · -- An id that is new joins the ids that the rest has to avoid.
      simp only [List.contains_eq_mem, hseen, decide_false, Bool.false_eq_true, if_false, ih,
        List.mem_cons, List.mem_map, not_or, not_exists, not_and]
      constructor
      · rintro ⟨hnodup, hrest⟩
        exact ⟨⟨fun node hnode => (hrest node hnode).1, hnodup⟩, not_false,
          fun node hnode => (hrest node hnode).2⟩
      · rintro ⟨⟨hhead, hnodup⟩, -, hrest⟩
        exact ⟨hnodup, fun node hnode => ⟨hhead node hnode, hrest node hnode⟩⟩

/-- Connections have no defect exactly if they run between the ids, their targets are distinct, and
none of these is the target of a connection before them. -/
theorem connectionDefect?_eq_none_iff {ids : List String} {targets : List Endpoint}
    {connections : List Connection} :
    connectionDefect? ids targets connections = none ↔
      (∀ connection ∈ connections,
        connection.source.node ∈ ids ∧ connection.target.node ∈ ids) ∧
      (connections.map Connection.target).Nodup ∧
      ∀ connection ∈ connections, connection.target ∉ targets := by
  induction connections generalizing targets with
  | nil => simp [connectionDefect?]
  | cons head rest ih =>
    rw [connectionDefect?]
    simp only [List.map_cons, List.nodup_cons, List.forall_mem_cons]
    by_cases hends : head.source.node ∈ ids ∧ head.target.node ∈ ids
    · by_cases htarget : head.target ∈ targets
      · simp [hends, htarget]
      · -- A target that is new joins the targets that the rest has to avoid.
        simp only [List.contains_eq_mem, hends.1, hends.2, htarget, decide_true, Bool.and_self,
          decide_false, Bool.false_eq_true, if_false, if_true, ih, List.mem_cons, List.mem_map,
          not_or, not_exists, not_and]
        constructor
        · rintro ⟨hids, hnodup, hrest⟩
          exact ⟨⟨⟨trivial, trivial⟩, hids⟩,
            ⟨fun connection hmem => (hrest connection hmem).1, hnodup⟩, not_false,
            fun connection hmem => (hrest connection hmem).2⟩
        · rintro ⟨⟨-, hids⟩, ⟨hhead, hnodup⟩, -, hrest⟩
          exact ⟨hids, hnodup,
            fun connection hmem => ⟨hhead connection hmem, hrest connection hmem⟩⟩
    · simp [hends]

/-- **A tree has no defect exactly if it is well formed.** -/
theorem defect?_eq_none_iff : tree.defect? = none ↔ tree.WellFormed := by
  rw [defect?, Option.or_eq_none_iff, Option.map_eq_none_iff, repeatedId?_eq_none_iff,
    connectionDefect?_eq_none_iff]
  constructor
  · rintro ⟨⟨hids, -⟩, hends, htargets, -⟩
    exact ⟨hids, hends, htargets⟩
  · rintro ⟨hids, hends, htargets⟩
    exact ⟨⟨hids, fun _ _ => List.not_mem_nil⟩, hends, htargets, fun _ _ => List.not_mem_nil⟩

/-! ## Links and connections -/

/-- **The links of a well-formed tree are its connections**: the link of an input is the source of
the connection that leads to the input. -/
theorem WellFormed.get?_linksTo_eq_some_iff (h : tree.WellFormed) {id name : String}
    {link : Link} :
    (tree.linksTo id).get? name = some link ↔
      ∃ connection ∈ tree.connections, connection.target = ⟨id, name⟩ ∧
        link = ⟨connection.source.node, connection.source.socket⟩ := by
  -- Connections to one node with one socket name would have one target.
  have hnodup : (((tree.connections.filter (·.target.node == id)).map fun connection =>
      (connection.target.socket, (⟨connection.source.node, connection.source.socket⟩ : Link))).map
        Prod.fst).Nodup := by
    rw [List.map_map]
    refine ((List.Nodup.of_map _ h.nodup_targets).filter _).map_on ?_
    intro first hfirst second hsecond hsocket
    rw [List.mem_filter, beq_iff_eq] at hfirst hsecond
    refine List.inj_on_of_nodup_map h.nodup_targets hfirst.1 hsecond.1 ?_
    exact Endpoint.mk.injEq .. ▸ ⟨hfirst.2.trans hsecond.2.symm, hsocket⟩
  rw [linksTo, Table.get?_ofList_eq_some_iff hnodup]
  constructor
  · intro hmem
    obtain ⟨connection, hconnection, heq⟩ := List.mem_map.mp hmem
    obtain ⟨hconnection, hid⟩ := List.mem_filter.mp hconnection
    obtain ⟨rfl, rfl⟩ := Prod.mk.inj heq
    exact ⟨connection, hconnection, by rw [← beq_iff_eq.mp hid], rfl⟩
  · rintro ⟨connection, hconnection, htarget, rfl⟩
    refine List.mem_map.mpr ⟨connection, List.mem_filter.mpr ⟨hconnection, ?_⟩, ?_⟩
    · rw [htarget, beq_self_eq_true]
    · rw [htarget]

end NodeTree

/-- **Exactly the well-formed trees make a graph.** -/
theorem Graph.ofTree_eq_ok_iff {tree : NodeTree} {graph : Graph} :
    Graph.ofTree tree = .ok graph ↔ tree.WellFormed ∧ graph = tree.graph := by
  rw [← NodeTree.defect?_eq_none_iff]
  unfold ofTree
  cases tree.defect? <;> simp [eq_comm]

end ShadingExport
