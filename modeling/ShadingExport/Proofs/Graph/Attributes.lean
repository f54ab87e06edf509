import ShadingExport.Proofs.Graph.Construction
import ShadingExport.Proofs.Snapshot.Filling
import ShadingExport.Proofs.Translation.FindsDefaults

/-!
# Attributes of filled trees

Readers of attributes have fallbacks of their own, and the node types have defaults for the same
attributes. The two agree on distributions, on the space of normal maps (`Graph.ReadsAlike`), and
on outputs, except where the first output is marked inactive and an unmarked one comes before all
that are marked active (`Graph.LeavesOpen`): a later output counts only if it is marked, and filling
marks it. The constant color of a node has no fallback, so it is missing unless it is filled in.
-/

namespace ShadingExport

open Translation

/-! ## Defaults of attributes -/

namespace NodeType

/-- What holds of the defaults in the list of node types holds of a default that is looked up. -/
theorem forall_defaultParam? {holds : Parameter → Prop} {key : String}
    (hall : ∀ type ∈ all, ∀ param ∈ type.params.get? key, holds param) (idname : String) :
    ∀ param ∈ defaultParam? idname key, holds param := by
  intro param hparam
  obtain ⟨type, htype, hparam⟩ := Option.bind_eq_some_iff.mp hparam
  exact hall type (List.mem_of_find?_eq_some htype) param hparam

/-- The only default of a distribution is Trowbridge-Reitz. -/
theorem string?_default_distribution : ∀ type ∈ all,
    ∀ param ∈ type.params.get? "distribution", param.json.string? = some "GGX" := by
  decide +kernel

/-- The only default of a space is the tangent space. -/
theorem string?_default_space : ∀ type ∈ all,
    ∀ param ∈ type.params.get? "space", param.json.string? = some "TANGENT" := by
  decide +kernel

/-- By default, outputs are marked active. -/
theorem bool?_default_isActiveOutput {idname : String}
    (h : NodeKind.ofIdname idname = .output) :
    (defaultParam? idname "is_active_output").bind (·.json.bool?) = some true := by
  unfold NodeKind.ofIdname at h
  split at h <;> cases h <;> rfl

/-- By default, a constant color is half-grey. -/
theorem color?_default_color {idname : String} (h : NodeKind.ofIdname idname = .rgb) :
    ((defaultParam? idname "color").bind (Literal.ofJson? ·.json)).bind Literal.color? =
      some (.grey 0.5) := by
  unfold NodeKind.ofIdname at h
  split at h <;> cases h
  rfl

end NodeType

/-! ## The nodes of a filled tree -/

namespace NodeTree

variable (tree : NodeTree) (node : Node)

/-- The graph of a filled tree has the filled nodes, and the links stay. -/
theorem nodes_graph_fillDefaults : tree.fillDefaults.graph.nodes =
    tree.nodes.map fun node => tree.shadingNode node.fillDefaults := by
  rw [graph, fillDefaults, List.map_map]
  rfl

theorem id_shadingNode_fillDefaults :
    (tree.shadingNode node.fillDefaults).id = (tree.shadingNode node).id :=
  node.completes_fillDefaults.id_eq

theorem kind_shadingNode_fillDefaults :
    (tree.shadingNode node.fillDefaults).kind = (tree.shadingNode node).kind :=
  congrArg NodeKind.ofIdname node.completes_fillDefaults.idname_eq

theorem get?_params_shadingNode_fillDefaults (key : String) :
    (tree.shadingNode node.fillDefaults).params.get? key =
      ((tree.shadingNode node).params.get? key).or (NodeType.defaultParam? node.idname key) :=
  node.completes_fillDefaults.params_eq key

/-- A reader whose fallback is the only default of a text attribute reads the same text once the
node is filled. -/
theorem getD_attributeText?_fillDefaults {key fallback : String}
    (hdefault : ∀ type ∈ NodeType.all,
      ∀ param ∈ type.params.get? key, param.json.string? = some fallback) :
    ((tree.shadingNode node.fillDefaults).attributeText? key).getD fallback =
      ((tree.shadingNode node).attributeText? key).getD fallback := by
  unfold ShadingNode.attributeText?
  rw [get?_params_shadingNode_fillDefaults]
  cases (tree.shadingNode node).params.get? key with
  | some param => rfl
  | none =>
    rw [Option.none_or]
    cases hparam : NodeType.defaultParam? node.idname key with
    | none => rfl
    | some param =>
      have htext := NodeType.forall_defaultParam? hdefault node.idname param hparam
      rw [Option.bind_some, htext]
      rfl

theorem distribution_shadingNode_fillDefaults :
    (tree.shadingNode node.fillDefaults).distribution = (tree.shadingNode node).distribution :=
  congrArg Distribution.parse
    (tree.getD_attributeText?_fillDefaults node NodeType.string?_default_distribution)

end NodeTree

/-! ## The space of normal maps -/

/-- A texture fails only because it has no image. -/
theorem ShadingNode.texture_failsOnly (node : ShadingNode) :
    node.texture.FailsOnly (· = .unsupportedFeature (.noImage node.id)) := by
  unfold texture
  simp only [liftM_except, failsOnly_bind, failsOnly_ofExcept, failsOnly_emit, true_and]
  refine ⟨fun error herror => ?_, fun image _ _ _ => ?_⟩
  · unfold getImage at herror
    split at herror <;> cases herror
    rfl
  · exact failsOnly_ite (fun _ => failsOnly_report_bind.mpr failsOnly_pure) fun _ => failsOnly_pure

namespace Graph

variable {graph : Graph} {node : ShadingNode}

/-- A normal map is refused because it is not in tangent space. -/
def RefusesSpace (graph : Graph) (node : ShadingNode) : Prop :=
  (graph.tangentNormals node).outcome = .error (.unsupportedFeature .normalMapSpace)

/-- In tangent space, nothing that a normal map fails for is its space. -/
theorem tangentNormals_failsOnly
    (hspace : (node.attributeText? "space").getD "TANGENT" = "TANGENT") :
    (graph.tangentNormals node).FailsOnly (· ≠ .unsupportedFeature .normalMapSpace) := by
  unfold tangentNormals
  rw [if_neg (not_not.mpr hspace)]
  simp only [bind_pure_comp, liftM_except, failsOnly_bind, failsOnly_ofExcept]
  refine ⟨fun error herror => ?_, fun socket _ => ?_⟩
  · rw [(ShadingNode.getInput_eq_error.mp herror).2]
    rintro ⟨⟩
  · cases graph.upstream? socket with
    | none =>
      rw [failsOnly_fail]
      rintro ⟨⟩
    | some source =>
      refine failsOnly_ite (fun _ => failsOnly_map.mpr ?_) fun _ => ?_
      · refine source.texture_failsOnly.mono fun error herror => ?_
        rw [herror]
        rintro ⟨⟩
      · rw [failsOnly_fail]
        rintro ⟨⟩

/-- A normal map is refused for its space exactly if it has one and that is another. -/
theorem refusesSpace_iff :
    graph.RefusesSpace node ↔ (node.attributeText? "space").getD "TANGENT" ≠ "TANGENT" := by
  constructor
  · intro h hspace
    exact tangentNormals_failsOnly hspace _ h rfl
  · intro hspace
    unfold RefusesSpace tangentNormals
    rw [if_pos hspace, outcome_fail]

end Graph

/-! ## Marked outputs -/

namespace ShadingNode

/-- The output says that it is active. -/
def isMarkedActive (node : ShadingNode) : Bool :=
  (node.attributeFlag? "is_active_output").getD false

/-- The output does not say whether it is active. -/
def IsUnmarked (node : ShadingNode) : Prop := node.params.get? "is_active_output" = none

/-- An output and its filled form: a mark stays as it is, and an unmarked output is marked
active. -/
structure Marks (filled node : ShadingNode) : Prop where
  /-- The id is the same. -/
  id_eq : filled.id = node.id
  /-- A mark stays, whatever its shape. -/
  flag_eq : ¬ node.IsUnmarked →
    filled.attributeFlag? "is_active_output" = node.attributeFlag? "is_active_output"
  /-- An unmarked output is marked active. -/
  flag_of_unmarked : node.IsUnmarked → filled.attributeFlag? "is_active_output" = some true

variable {filled node : ShadingNode}

theorem attributeFlag?_of_isUnmarked (h : node.IsUnmarked) :
    node.attributeFlag? "is_active_output" = none := by
  rw [attributeFlag?, h, Option.bind_none]

/-- What is marked is not unmarked. -/
theorem not_isUnmarked {flag : Bool} (h : node.attributeFlag? "is_active_output" = some flag) :
    ¬ node.IsUnmarked := by
  intro hunmarked
  rw [attributeFlag?_of_isUnmarked hunmarked] at h
  cases h

theorem Marks.isMarkedActive_eq (h : filled.Marks node) (hmarked : ¬ node.IsUnmarked) :
    filled.isMarkedActive = node.isMarkedActive := by
  rw [isMarkedActive, h.flag_eq hmarked, ← isMarkedActive]

theorem Marks.isMarkedActive_of_isUnmarked (h : filled.Marks node) (hunmarked : node.IsUnmarked) :
    filled.isMarkedActive = true := by
  rw [isMarkedActive, h.flag_of_unmarked hunmarked]
  rfl

end ShadingNode

/-- Among the outputs, this one is unmarked and comes before all that are unmarked or marked
active. -/
def ComesOpen (outputs : List ShadingNode) (spare : ShadingNode) : Prop :=
  ∃ before after, outputs = before ++ spare :: after ∧ spare.IsUnmarked ∧
    ∀ node ∈ before, ¬ node.IsUnmarked ∧ node.isMarkedActive = false

section Later

variable {filled outputs : List ShadingNode}
  (hmarks : List.Forall₂ ShadingNode.Marks filled outputs)
include hmarks

/-- Unless an unmarked output comes first, filling does not change which output is the first that
is marked active. -/
theorem map_id_find?_of_not_comesOpen (hopen : ∀ spare, ¬ ComesOpen outputs spare) :
    (filled.find? ShadingNode.isMarkedActive).map ShadingNode.id =
      (outputs.find? ShadingNode.isMarkedActive).map ShadingNode.id := by
  induction hmarks with
  | nil => rfl
  | @cons head node _ rest hhead _ ih =>
    have hmarked : ¬ node.IsUnmarked := by
      intro hunmarked
      exact hopen node ⟨[], rest, rfl, hunmarked, List.forall_mem_nil _⟩
    have hsame := hhead.isMarkedActive_eq hmarked
    cases hactive : node.isMarkedActive with
    | true =>
      rw [List.find?_cons_of_pos (hsame.trans hactive), List.find?_cons_of_pos hactive,
        Option.map_some, Option.map_some, hhead.id_eq]
    | false =>
      have hskip : ¬ head.isMarkedActive = true := by rw [hsame, hactive]; exact Bool.false_ne_true
      have hskip' : ¬ node.isMarkedActive = true := by rw [hactive]; exact Bool.false_ne_true
      rw [List.find?_cons_of_neg hskip, List.find?_cons_of_neg hskip']
      refine ih fun spare ⟨before, after, hrest, hspare, hbefore⟩ => ?_
      refine hopen spare ⟨node :: before, after, congrArg _ hrest, hspare, ?_⟩
      exact List.forall_mem_cons.mpr ⟨⟨hmarked, hactive⟩, hbefore⟩

/-- An unmarked output that comes first is the first that is marked active once it is filled. -/
theorem map_id_find?_of_comesOpen {spare : ShadingNode} (hopen : ComesOpen outputs spare) :
    (filled.find? ShadingNode.isMarkedActive).map ShadingNode.id = some spare.id := by
  obtain ⟨before, after, houtputs, hspare, hbefore⟩ := hopen
  induction hmarks generalizing before with
  | nil => cases before <;> cases houtputs
  | @cons head node _ rest hhead _ ih =>
    cases before with
    | nil =>
      cases houtputs
      rw [List.find?_cons_of_pos (hhead.isMarkedActive_of_isUnmarked hspare), Option.map_some,
        hhead.id_eq]
    | cons other before =>
      cases houtputs
      obtain ⟨⟨hmarked, hactive⟩, hbefore⟩ := List.forall_mem_cons.mp hbefore
      have hskip : ¬ head.isMarkedActive = true := by
        rw [hhead.isMarkedActive_eq hmarked, hactive]
        exact Bool.false_ne_true
      rw [List.find?_cons_of_neg hskip]
      exact ih before rfl hbefore

end Later

namespace Graph

variable {graph : Graph}

/-- The first output is marked inactive, and of the later ones this one is unmarked and comes before
all that are unmarked or marked active. -/
def LeavesOpen (graph : Graph) (spare : ShadingNode) : Prop :=
  ∃ first later, graph.outputs = first :: later ∧
    first.attributeFlag? "is_active_output" = some false ∧ ComesOpen later spare

/-- Unless the first output is marked inactive, it counts. -/
theorem output?_of_active {first : ShadingNode} {later : List ShadingNode}
    (houtputs : graph.outputs = first :: later)
    (hactive : (first.attributeFlag? "is_active_output").getD true = true) :
    graph.output? = some first := by
  unfold output?
  rw [houtputs]
  exact if_pos hactive

/-- If the first output is marked inactive, the first later one that is marked active counts. -/
theorem output?_of_inactive {first : ShadingNode} {later : List ShadingNode}
    (houtputs : graph.outputs = first :: later)
    (hinactive : first.attributeFlag? "is_active_output" = some false) :
    graph.output? = (later.find? ShadingNode.isMarkedActive).or (some first) := by
  unfold output?
  rw [houtputs]
  dsimp only
  rw [hinactive]
  rfl

end Graph

namespace NodeTree

variable (tree : NodeTree)

/-- Filling marks the outputs that are unmarked. -/
theorem marks_outputs_fillDefaults :
    List.Forall₂ ShadingNode.Marks tree.fillDefaults.graph.outputs tree.graph.outputs := by
  have hkind : ((·.kind == NodeKind.output) ∘ fun node => tree.shadingNode node.fillDefaults) =
      ((·.kind == NodeKind.output) ∘ tree.shadingNode) := by
    funext node
    rw [Function.comp_apply, Function.comp_apply, kind_shadingNode_fillDefaults]
  rw [Graph.outputs, Graph.outputs, nodes_graph_fillDefaults, graph, List.filter_map,
    List.filter_map, hkind, List.forall₂_map_left_iff, List.forall₂_map_right_iff,
    List.forall₂_same]
  intro node hnode
  have houtput : NodeKind.ofIdname node.idname = .output :=
    beq_iff_eq.mp (List.mem_filter.mp hnode).2
  have hparam := tree.get?_params_shadingNode_fillDefaults node "is_active_output"
  refine ⟨tree.id_shadingNode_fillDefaults node, fun hmarked => ?_, fun hunmarked => ?_⟩
  · obtain ⟨param, hfound⟩ := Option.ne_none_iff_exists'.mp hmarked
    rw [ShadingNode.attributeFlag?, ShadingNode.attributeFlag?, hparam, hfound, Option.some_or]
  · rw [ShadingNode.attributeFlag?, hparam, hunmarked, Option.none_or]
    exact NodeType.bool?_default_isActiveOutput houtput

/-- **The output that counts stays**, unless the first one is marked inactive and an unmarked one
comes before all later ones that are marked active. -/
theorem map_id_output?_fillDefaults (hopen : ∀ spare, ¬ tree.graph.LeavesOpen spare) :
    tree.fillDefaults.graph.output?.map ShadingNode.id =
      tree.graph.output?.map ShadingNode.id := by
  have hmarks := tree.marks_outputs_fillDefaults
  cases houtputs : tree.graph.outputs with
  | nil =>
    rw [houtputs, List.forall₂_nil_right_iff] at hmarks
    rw [Graph.output?, Graph.output?, houtputs, hmarks]
  | cons first later =>
    rw [houtputs, List.forall₂_cons_right_iff] at hmarks
    obtain ⟨head, rest, hhead, hrest, hfilled⟩ := hmarks
    by_cases hinactive : first.attributeFlag? "is_active_output" = some false
    · have hinactive' := (hhead.flag_eq (ShadingNode.not_isUnmarked hinactive)).trans hinactive
      have hlater := map_id_find?_of_not_comesOpen hrest
        fun spare hspare => hopen spare ⟨first, later, houtputs, hinactive, hspare⟩
      rw [Graph.output?_of_inactive hfilled hinactive',
        Graph.output?_of_inactive houtputs hinactive, Option.map_or, Option.map_or, hlater,
        Option.map_some, Option.map_some, hhead.id_eq]
    · have hactive : (first.attributeFlag? "is_active_output").getD true = true := by
        cases hflag : first.attributeFlag? "is_active_output" with
        | none => rfl
        | some flag =>
          rw [hflag] at hinactive
          simpa using hinactive
      have hactive' : (head.attributeFlag? "is_active_output").getD true = true := by
        by_cases hunmarked : first.IsUnmarked
        · rw [hhead.flag_of_unmarked hunmarked]
          rfl
        · rw [hhead.flag_eq hunmarked]
          exact hactive
      rw [Graph.output?_of_active hfilled hactive', Graph.output?_of_active houtputs hactive,
        Option.map_some, Option.map_some, hhead.id_eq]

variable {tree}

/-- **An unmarked output that is left open counts once it is filled**, and only then. -/
theorem output?_of_leavesOpen (htree : tree.WellFormed) {spare : ShadingNode}
    (hopen : tree.graph.LeavesOpen spare) :
    tree.fillDefaults.graph.output?.map ShadingNode.id = some spare.id ∧
      tree.graph.output?.map ShadingNode.id ≠ some spare.id := by
  obtain ⟨first, later, houtputs, hinactive, hspare⟩ := hopen
  have hmarks := tree.marks_outputs_fillDefaults
  rw [houtputs, List.forall₂_cons_right_iff] at hmarks
  obtain ⟨head, rest, hhead, hrest, hfilled⟩ := hmarks
  have hmarked : ¬ first.IsUnmarked := ShadingNode.not_isUnmarked hinactive
  constructor
  · rw [Graph.output?_of_inactive hfilled ((hhead.flag_eq hmarked).trans hinactive), Option.map_or,
      map_id_find?_of_comesOpen hrest hspare, Option.some_or]
  · intro hsame
    rw [Option.map_eq_some_iff] at hsame
    obtain ⟨output, houtput, hid⟩ := hsame
    obtain ⟨before, after, rfl, hunmarked, -⟩ := hspare
    have hmem : spare ∈ tree.graph.outputs := by
      rw [houtputs]
      exact List.mem_cons_of_mem _ (List.mem_append_right _ List.mem_cons_self)
    -- No other node has the id, so the output that counts would be the unmarked one.
    have hnodup : (tree.graph.nodes.map ShadingNode.id).Nodup := by
      rw [Graph.map_id_nodes_graph]
      exact htree.nodup_ids
    have heq : output = spare := List.inj_on_of_nodup_map hnodup
      (Graph.mem_nodes_of_output? houtput) (List.mem_filter.mp hmem).1 hid
    subst heq
    rw [Graph.output?_of_inactive houtputs hinactive] at houtput
    rcases Option.or_eq_some_iff.mp houtput with hlater | ⟨-, hfirst⟩
    · have hactive := List.find?_some hlater
      rw [ShadingNode.isMarkedActive, ShadingNode.attributeFlag?_of_isUnmarked hunmarked] at hactive
      cases hactive
    · cases hfirst
      exact hmarked hunmarked

end NodeTree

/-! ## Constant colors -/

namespace NodeTree

variable (tree : NodeTree) (node : Node)

/-- A constant color that is stored stays. -/
theorem constantColor_shadingNode_fillDefaults
    (hpresent : ((tree.shadingNode node).params.get? "color").isSome) :
    (tree.shadingNode node.fillDefaults).constantColor = (tree.shadingNode node).constantColor := by
  obtain ⟨param, hparam⟩ := Option.isSome_iff_exists.mp hpresent
  have hid := tree.id_shadingNode_fillDefaults node
  unfold ShadingNode.constantColor ShadingNode.attributeLiteral?
  rw [get?_params_shadingNode_fillDefaults, hparam, Option.some_or, hid]

/-- A constant color that is missing is an error before filling, and grey afterwards. -/
theorem constantColor_of_missing (hkind : (tree.shadingNode node).kind = .rgb)
    (hmissing : (tree.shadingNode node).params.get? "color" = none) :
    (tree.shadingNode node).constantColor =
        .error (.invalidLiteral s!"{(tree.shadingNode node).id}.color" .color) ∧
      (tree.shadingNode node.fillDefaults).constantColor = .ok (.grey 0.5) := by
  unfold ShadingNode.constantColor ShadingNode.attributeLiteral?
  rw [get?_params_shadingNode_fillDefaults, hmissing, Option.none_or,
    NodeType.color?_default_color hkind]
  exact ⟨rfl, rfl⟩

end NodeTree

/-! ## Trees before and after filling -/

/-- What is read off the attributes of a node of a graph is read off them in the filled graph. -/
structure Graph.ReadsAlike (graph filled : Graph) (node node' : ShadingNode) : Prop where
  /-- The id is the same. -/
  id_eq : node'.id = node.id
  /-- The kind is the same. -/
  kind_eq : node'.kind = node.kind
  /-- The distribution is the same, or the same error. -/
  distribution_eq : node'.distribution = node.distribution
  /-- Either both are refused as normal maps in another space, or none is. -/
  refusesSpace_iff : filled.RefusesSpace node' ↔ graph.RefusesSpace node
  /-- A constant color that is stored is the same, or the same error. -/
  constantColor_eq : (node.params.get? "color").isSome → node'.constantColor = node.constantColor
  /-- A constant color that is missing is an error, and grey in the filled graph. -/
  constantColor_missing : node.kind = .rgb → node.params.get? "color" = none →
    node.constantColor = .error (.invalidLiteral s!"{node.id}.color" .color) ∧
      node'.constantColor = .ok (.grey 0.5)

/-- **Fallbacks and defaults agree.** A tree that makes a graph makes one with the same nodes once
it is filled. Node by node, these have the same distributions, are refused for the same spaces, and
have the same constant colors where they store one. The output that counts is the same, unless the
first one is marked inactive and an unmarked one comes before all later ones that are marked
active. -/
theorem NodeTree.readsAlike_fillDefaults {tree : NodeTree} {graph : Graph}
    (hgraph : Graph.ofTree tree = .ok graph) :
    ∃ filled, Graph.ofTree tree.fillDefaults = .ok filled ∧
      List.Forall₂ (graph.ReadsAlike filled) graph.nodes filled.nodes ∧
      ((∀ spare, ¬ graph.LeavesOpen spare) →
        filled.output?.map ShadingNode.id = graph.output?.map ShadingNode.id) := by
  have hfilled := Graph.ofTree_fillDefaults tree
  rw [hgraph] at hfilled
  obtain ⟨-, rfl⟩ := Graph.ofTree_eq_ok_iff.mp hgraph
  refine ⟨_, hfilled, ?_, tree.map_id_output?_fillDefaults⟩
  rw [nodes_graph_fillDefaults, NodeTree.graph, List.forall₂_map_left_iff,
    List.forall₂_map_right_iff, List.forall₂_same]
  intro node _
  refine ⟨tree.id_shadingNode_fillDefaults node, tree.kind_shadingNode_fillDefaults node,
    tree.distribution_shadingNode_fillDefaults node, ?_,
    tree.constantColor_shadingNode_fillDefaults node, tree.constantColor_of_missing node⟩
  rw [Graph.refusesSpace_iff, Graph.refusesSpace_iff,
    tree.getD_attributeText?_fillDefaults node NodeType.string?_default_space]

/-- Outputs with all kinds of marks: the first is inactive, the second has a mark of a wrong shape,
the third is active and the last unmarked. Beside them, a glossy node without a distribution. -/
def NodeTree.drafts : NodeTree where
  nodes := [
    { id := "gloss", idname := "ShaderNodeBsdfGlossy" },
    { id := "sketch", idname := "ShaderNodeOutputMaterial"
      params := .ofList [("is_active_output", ⟨.bool false, rfl⟩)] },
    { id := "scrap", idname := "ShaderNodeOutputMaterial"
      params := .ofList [("is_active_output", ⟨.string "yes", rfl⟩)] },
    { id := "final", idname := "ShaderNodeOutputMaterial"
      params := .ofList [("is_active_output", ⟨.bool true, rfl⟩)] },
    { id := "spare", idname := "ShaderNodeOutputMaterial" }]

/-- The active output counts in both forms, and the glossy node is Trowbridge-Reitz in both. -/
theorem NodeTree.readsAlike_fillDefaults_drafts :
    Graph.ofTree .drafts = .ok NodeTree.drafts.graph ∧
      (∀ spare, ¬ NodeTree.drafts.graph.LeavesOpen spare) ∧
      ∃ filled gloss later, Graph.ofTree NodeTree.drafts.fillDefaults = .ok filled ∧
        filled.output?.map ShadingNode.id = some "final" ∧
        filled.nodes = gloss :: later ∧ gloss.distribution = .ok .ggx := by
  have hgraph : Graph.ofTree .drafts = .ok NodeTree.drafts.graph := rfl
  have hfinal : NodeTree.drafts.graph.output?.map ShadingNode.id = some "final" := rfl
  have hopen : ∀ spare, ¬ NodeTree.drafts.graph.LeavesOpen spare := by
    intro spare hspare
    -- If an output were left open, it would count in the filled tree, and there `final` counts.
    obtain ⟨hcounts, hother⟩ := output?_of_leavesOpen (Graph.ofTree_eq_ok_iff.mp hgraph).1 hspare
    have hfilled : NodeTree.drafts.fillDefaults.graph.output?.map ShadingNode.id = some "final" :=
      rfl
    exact hother (hfinal.trans (hfilled.symm.trans hcounts))
  obtain ⟨filled, hfilled, hnodes, houtput⟩ := readsAlike_fillDefaults hgraph
  refine ⟨hgraph, hopen, filled, ?_⟩
  have hfirst : ∃ rest, NodeTree.drafts.graph.nodes =
      NodeTree.drafts.shadingNode { id := "gloss", idname := "ShaderNodeBsdfGlossy" } :: rest :=
    ⟨_, rfl⟩
  obtain ⟨rest, hrest⟩ := hfirst
  rw [hrest, List.forall₂_cons_left_iff] at hnodes
  obtain ⟨gloss, later, hgloss, -, hlater⟩ := hnodes
  exact ⟨gloss, later, hfilled, (houtput hopen).trans hfinal, hlater, hgloss.distribution_eq⟩

/-- Two outputs, the first marked inactive and the second unmarked, and paint whose constant color
is left out. -/
def NodeTree.unmarkedOutput : NodeTree where
  nodes := [
    { id := "off", idname := "ShaderNodeOutputMaterial"
      params := .ofList [("is_active_output", ⟨.bool false, rfl⟩)] },
    { id := "spare", idname := "ShaderNodeOutputMaterial" },
    { id := "tint", idname := "ShaderNodeRGB" },
    { id := "paint", idname := "ShaderNodeBsdfDiffuse" }]
  connections := [{ source := ⟨"tint", "Color"⟩, target := ⟨"paint", "Color"⟩ }]

/-- **Filling can change the output that counts, and mend a constant color**: of the two outputs the
inactive one counts before filling and the unmarked one afterwards, and the color that is left out
is an error before filling and grey afterwards. -/
theorem NodeTree.output?_fillDefaults_unmarkedOutput :
    ∃ graph filled, Graph.ofTree .unmarkedOutput = .ok graph ∧
      Graph.ofTree NodeTree.unmarkedOutput.fillDefaults = .ok filled ∧
      graph.output?.map ShadingNode.id = some "off" ∧
      filled.output?.map ShadingNode.id = some "spare" ∧
      (graph.node? "tint").map ShadingNode.constantColor =
        some (.error (.invalidLiteral "tint.color" .color)) ∧
      (filled.node? "tint").map ShadingNode.constantColor = some (.ok (.grey 0.5)) :=
  ⟨_, _, rfl, rfl, rfl, rfl, rfl, rfl⟩

end ShadingExport
