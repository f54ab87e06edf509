import ShadingExport.Proofs.Graph.Sockets
import ShadingExport.Translation.Surface
import Mathlib.Data.Set.Card
import Mathlib.Logic.Relation

/-!
# Mixtures that do not contain themselves

A mix node contains the nodes linked to its two sides (`Graph.Mixes`). If no node contains itself
through a chain of mixtures (`Graph.MixAcyclic`), then a bound of the size of the graph never cuts
a translation short: the number of nodes that a node reaches through mixtures (`Graph.mixReach`)
falls along every such link, and it is at most the size of the graph. So a translation satisfies
its own recursive equation, without any bound (`Graph.surface_eq_surfaceStep`), and what holds of a
node whenever it holds of the sides of a mixture holds of all nodes (`Graph.MixAcyclic.induction`).
-/

namespace ShadingExport

namespace Graph

variable {graph : Graph} {mode : GlossyMode}

/-- A mix node contains the nodes linked to its two sides. -/
def Mixes (graph : Graph) (node side : ShadingNode) : Prop :=
  node.kind = .mix ∧
    (graph.feeding? node "Shader" = some side ∨ graph.feeding? node "Shader_001" = some side)

/-- No node reaches itself by following the links to the sides of mix nodes. -/
def MixAcyclic (graph : Graph) : Prop :=
  ∀ node, ¬ Relation.TransGen graph.Mixes node node

/-- The sides of a mixture are nodes of the graph. -/
theorem Mixes.mem_nodes {node side : ShadingNode} (h : graph.Mixes node side) :
    side ∈ graph.nodes := by
  rcases h.2 with hside | hside
  · exact mem_nodes_of_feeding? hside
  · exact mem_nodes_of_feeding? hside

/-- A rank that falls from every mixture of the graph to its sides excludes cycles. -/
theorem mixAcyclic_of_rank (rank : ShadingNode → ℕ)
    (hrank : ∀ node ∈ graph.nodes, ∀ side, graph.Mixes node side → rank side < rank node) :
    graph.MixAcyclic := by
  intro node hcycle
  have hfall : ∀ {first last : ShadingNode}, Relation.TransGen graph.Mixes first last →
      first ∈ graph.nodes → last ∈ graph.nodes ∧ rank last < rank first := by
    intro first last hpath hfirst
    induction hpath with
    | single hstep => exact ⟨hstep.mem_nodes, hrank _ hfirst _ hstep⟩
    | tail _ hstep ih => exact ⟨hstep.mem_nodes, (hrank _ ih.1 _ hstep).trans ih.2⟩
  -- The start of a cycle is also its end, and so a node of the graph.
  obtain ⟨_, hstep⟩ : ∃ before, graph.Mixes before node := by
    cases hcycle with
    | single hstep => exact ⟨_, hstep⟩
    | tail _ hstep => exact ⟨_, hstep⟩
  exact lt_irrefl _ (hfall hcycle hstep.mem_nodes).2

/-- Mixtures with no mixtures on their sides exclude cycles. -/
theorem mixAcyclic_of_sides
    (hsides : ∀ node ∈ graph.nodes, ∀ name ∈ ["Shader", "Shader_001"],
      ∀ side ∈ graph.feeding? node name, side.kind ≠ .mix) : graph.MixAcyclic := by
  refine mixAcyclic_of_rank (fun node => if node.kind = .mix then 1 else 0) ?_
  rintro node hnode side ⟨hkind, hside⟩
  have hother : side.kind ≠ .mix := by
    rcases hside with hside | hside
    · exact hsides node hnode "Shader" List.mem_cons_self side hside
    · exact hsides node hnode "Shader_001" (List.mem_cons_of_mem _ List.mem_cons_self) side hside
  rw [if_pos hkind, if_neg hother]
  exact one_pos

/-! ## How far a node reaches -/

/-- The nodes of the graph that a node reaches through mixtures, itself included. -/
def mixReached (graph : Graph) (node : ShadingNode) : Set ShadingNode :=
  {other | other ∈ graph.nodes ∧ Relation.ReflTransGen graph.Mixes node other}

/-- The number of nodes of the graph that a node reaches through mixtures, itself included. -/
noncomputable def mixReach (graph : Graph) (node : ShadingNode) : ℕ :=
  (graph.mixReached node).ncard

theorem finite_mixReached (graph : Graph) (node : ShadingNode) : (graph.mixReached node).Finite :=
  (List.finite_toSet graph.nodes).subset fun _ h => h.1

theorem mixReach_pos {node : ShadingNode} (hnode : node ∈ graph.nodes) : 0 < graph.mixReach node :=
  (Set.ncard_pos (graph.finite_mixReached node)).mpr ⟨node, hnode, .refl⟩

/-- A node reaches at most all nodes of the graph. -/
theorem mixReach_le_size (graph : Graph) (node : ShadingNode) :
    graph.mixReach node ≤ graph.size := by
  classical
  calc graph.mixReach node ≤ {other | other ∈ graph.nodes}.ncard :=
        Set.ncard_le_ncard (fun _ h => h.1) (List.finite_toSet graph.nodes)
    _ = graph.nodes.toFinset.card := by rw [← List.coe_toFinset, Set.ncard_coe_finset]
    _ ≤ graph.size := List.toFinset_card_le graph.nodes

/-- Without cycles, the sides of a mixture reach fewer nodes than the mixture: they do not reach
the mixture itself. -/
theorem mixReach_lt (hacyclic : graph.MixAcyclic) {node side : ShadingNode}
    (hnode : node ∈ graph.nodes) (h : graph.Mixes node side) :
    graph.mixReach side < graph.mixReach node := by
  refine Set.ncard_lt_ncard ⟨?_, ?_⟩ (graph.finite_mixReached node)
  · rintro other ⟨hother, hpath⟩
    exact ⟨hother, hpath.head h⟩
  · intro hsubset
    -- Otherwise the side would reach the mixture that contains it.
    have hback : node ∈ graph.mixReached side := hsubset ⟨hnode, .refl⟩
    exact hacyclic node (Relation.TransGen.head' h hback.2)

/-- **Induction over mixtures**: what holds of a node of the graph whenever it holds of the sides of
the node, if that is a mixture, holds of all nodes of the graph. -/
theorem MixAcyclic.induction (hacyclic : graph.MixAcyclic) {motive : ShadingNode → Prop}
    (hstep : ∀ node ∈ graph.nodes, (∀ side, graph.Mixes node side → motive side) → motive node) :
    ∀ node ∈ graph.nodes, motive node := by
  intro node hnode
  induction hreach : graph.mixReach node using Nat.strong_induction_on generalizing node with
  | _ reach ih =>
    subst hreach
    refine hstep node hnode fun side hside => ?_
    exact ih (graph.mixReach side) (mixReach_lt hacyclic hnode hside) side hside.mem_nodes rfl

/-! ## Materials by kind -/

theorem material_of_glossy {side : ShadingNode → Translation (MaterialRecord Image)}
    {node : ShadingNode} (hkind : node.kind = .glossy) :
    graph.material mode side node = graph.glossy mode node := by
  rw [material, hkind]

theorem material_of_mix {side : ShadingNode → Translation (MaterialRecord Image)}
    {node : ShadingNode} (hkind : node.kind = .mix) :
    graph.material mode side node = graph.blend side node := by
  rw [material, hkind]

/-- The material of a node that is neither glossy nor a mixture depends on the node alone. -/
theorem material_of_ne {node : ShadingNode} (hkind : node.kind ≠ .glossy)
    (hkind' : node.kind ≠ .mix) (mode mode' : GlossyMode)
    (side side' : ShadingNode → Translation (MaterialRecord Image)) :
    graph.material mode side node = graph.material mode' side' node := by
  unfold material
  cases h : node.kind with
  | glossy => exact absurd h hkind
  | mix => exact absurd h hkind'
  | _ => rfl

/-! ## The bound never matters -/

/-- A material depends on the translations of the sides of its node alone. -/
theorem material_congr {side side' : ShadingNode → Translation (MaterialRecord Image)}
    {node : ShadingNode} (h : ∀ child, graph.Mixes node child → side child = side' child) :
    graph.material mode side node = graph.material mode side' node := by
  unfold material
  cases hkind : node.kind with
  | mix =>
    show graph.blend side node = graph.blend side' node
    unfold blend
    cases hfirst : graph.feeding? node "Shader" with
    | none => rfl
    | some first =>
      cases hsecond : graph.feeding? node "Shader_001" with
      | none => rfl
      | some second =>
        simp only [h first ⟨hkind, .inl hfirst⟩, h second ⟨hkind, .inr hsecond⟩]
  | _ => rfl

/-- A step of a translation depends on the translations of the sides of its node alone. -/
theorem surfaceStep_congr {side side' : ShadingNode → Translation (MaterialRecord Image)}
    {node : ShadingNode} (h : ∀ child, graph.Mixes node child → side child = side' child)
    (name : Option String) :
    graph.surfaceStep mode side node name = graph.surfaceStep mode side' node name := by
  rw [surfaceStep, surfaceStep, material_congr h]

/-- Bounds that are at least as large as the reach of a node give the same translation of it. -/
theorem surfaceWithin_eq_surfaceWithin (hacyclic : graph.MixAcyclic) {depth depth' : ℕ}
    {node : ShadingNode} (hnode : node ∈ graph.nodes) (h : graph.mixReach node ≤ depth)
    (h' : graph.mixReach node ≤ depth') (name : Option String) :
    graph.surfaceWithin mode depth node name = graph.surfaceWithin mode depth' node name := by
  -- Induction on the first bound: along each link to a side both bounds and the reach go down.
  induction depth generalizing depth' node name with
  | zero => exact absurd (mixReach_pos hnode) (by omega)
  | succ depth ih =>
    cases depth' with
    | zero => exact absurd (mixReach_pos hnode) (by omega)
    | succ depth' =>
      refine surfaceStep_congr (fun side hside => ?_) name
      have hlt := mixReach_lt hacyclic hnode hside
      exact ih hside.mem_nodes (by omega) (by omega) none

/-- A bound that is at least the reach of a node is as good as the size of the graph. -/
theorem surfaceWithin_eq_surface (hacyclic : graph.MixAcyclic) {depth : ℕ} {node : ShadingNode}
    (hnode : node ∈ graph.nodes) (h : graph.mixReach node ≤ depth) (name : Option String) :
    graph.surfaceWithin mode depth node name = graph.surface mode node name :=
  surfaceWithin_eq_surfaceWithin hacyclic hnode h (graph.mixReach_le_size node) name

/-- **The recursive equation of translation**: without cycles of mixtures, translating a node is one
step on top of the unbounded translation of its sides. -/
theorem surface_eq_surfaceStep (hacyclic : graph.MixAcyclic) {node : ShadingNode}
    (hnode : node ∈ graph.nodes) (name : Option String) :
    graph.surface mode node name =
      graph.surfaceStep mode (graph.surface mode · none) node name := by
  -- With one more than enough, the outermost step can be taken off and the sides keep enough.
  rw [← surfaceWithin_eq_surface hacyclic hnode
    ((graph.mixReach_le_size node).trans (Nat.le_succ _)) name]
  refine surfaceStep_congr (fun side hside => ?_) name
  exact surfaceWithin_eq_surface hacyclic hside.mem_nodes (graph.mixReach_le_size side) none

end Graph

end ShadingExport
