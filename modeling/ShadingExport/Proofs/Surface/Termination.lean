import ShadingExport.Proofs.Session.Rendering
import ShadingExport.Proofs.Surface.Remarks

/-!
# Translations end

A translation calls itself for the two sides of a mixture and for nothing else: what feeds an
amount, a color, a roughness or a normal is read on the spot. `Graph.Ends` is the unbounded
recursion, as calls that have ended once the calls below them have, together with how deep they are
nested.

* Calls that end are all that a bounded evaluator needs: from their depth on it gives what they end
  in, whatever it would answer to a call that is nested deeper (`Graph.Ends.surfaceOr_eq`).
* Where no mixture contains itself, all calls for nodes of the graph end, nested at most as deep as
  the graph has nodes (`Graph.ends_surface`). Cycles through other links decide nothing.
* So the bound that translations are defined with is never met (`Session.surface_terminates`).
-/

namespace ShadingExport

open Translation

namespace Graph

variable {graph : Graph} {mode : GlossyMode}
  {cutOff : ShadingNode → Option String → Translation (MaterialRecord Image)}

/-! ## Calls that end -/

/-- A call for a node ends in a translation, with calls nested at most so deep. Whether a mixture
gets to call for its second side depends on the first one; here the calls for both have to end. -/
inductive Ends (graph : Graph) (mode : GlossyMode) :
    ℕ → ShadingNode → Option String → Translation (MaterialRecord Image) → Prop
  /-- A call ends in one step on what the calls for the sides of its node have ended in. -/
  | call {depth : ℕ} {node : ShadingNode} {name : Option String}
      (side : ShadingNode → Translation (MaterialRecord Image))
      (hsides : ∀ child, graph.Mixes node child → Ends graph mode depth child none (side child)) :
      Ends graph mode (depth + 1) node name (graph.surfaceStep mode side node name)

/-- Translates a node with calls nested at most `depth` deep; `cutOff` answers the ones below. -/
def surfaceOr (graph : Graph) (mode : GlossyMode)
    (cutOff : ShadingNode → Option String → Translation (MaterialRecord Image)) :
    ℕ → ShadingNode → Option String → Translation (MaterialRecord Image)
  | 0, node, name => cutOff node name
  | depth + 1, node, name =>
    graph.surfaceStep mode (graph.surfaceOr mode cutOff depth · none) node name

/-- **A bound that calls keep to cuts nothing off**: from there on, every bounded evaluator gives
what the calls end in. -/
theorem Ends.surfaceOr_eq {depth : ℕ} {node : ShadingNode} {name : Option String}
    {translation : Translation (MaterialRecord Image)}
    (hends : graph.Ends mode depth node name translation) {bound : ℕ} (hbound : depth ≤ bound) :
    graph.surfaceOr mode cutOff bound node name = translation := by
  -- Induction on the calls: the calls for the sides are nested one level less.
  induction hends generalizing bound with
  | call side hsides ih =>
    cases bound with
    | zero => exact absurd hbound (Nat.not_succ_le_zero _)
    | succ bound =>
      refine surfaceStep_congr (fun child hchild => ?_) _
      exact ih child hchild (Nat.le_of_succ_le_succ hbound)

/-- Calls for one node end in one translation, however deep they are nested. -/
theorem Ends.unique {depth depth' : ℕ} {node : ShadingNode} {name : Option String}
    {translation translation' : Translation (MaterialRecord Image)}
    (hends : graph.Ends mode depth node name translation)
    (hends' : graph.Ends mode depth' node name translation') : translation = translation' := by
  -- One evaluator with room for both gives both.
  have hfirst : graph.surfaceOr mode (graph.surface mode) (max depth depth') node name =
      translation := hends.surfaceOr_eq (Nat.le_max_left _ _)
  have hsecond : graph.surfaceOr mode (graph.surface mode) (max depth depth') node name =
      translation' := hends'.surfaceOr_eq (Nat.le_max_right _ _)
  exact hfirst.symm.trans hsecond

/-- Without cycles of mixtures, calls for a node are nested at most as deep as the node reaches. -/
theorem ends_of_mixReach_le (hacyclic : graph.MixAcyclic) {depth : ℕ} {node : ShadingNode}
    (hnode : node ∈ graph.nodes) (hdepth : graph.mixReach node ≤ depth) (name : Option String) :
    graph.Ends mode depth node name (graph.surface mode node name) := by
  -- Induction on the depth, which the reach of the sides keeps below.
  induction depth generalizing node name with
  | zero => exact absurd (mixReach_pos hnode) (by omega)
  | succ depth ih =>
    rw [surface_eq_surfaceStep hacyclic hnode]
    refine .call _ fun child hchild => ?_
    have hlt := mixReach_lt hacyclic hnode hchild
    exact ih hchild.mem_nodes (by omega) none

/-- **Without cycles of mixtures, all calls end**, nested at most as deep as the graph has nodes. -/
theorem ends_surface (hacyclic : graph.MixAcyclic) {node : ShadingNode} (hnode : node ∈ graph.nodes)
    (name : Option String) :
    graph.Ends mode graph.size node name (graph.surface mode node name) :=
  ends_of_mixReach_le hacyclic hnode (graph.mixReach_le_size node) name

end Graph

/-! ## Sessions -/

namespace Session

/-- Translates a node into a record over paths with calls nested at most `depth` deep; `cutOff`
answers the ones below. -/
def surfaceOr (session : Session) (graph : Graph)
    (cutOff : ShadingNode → Option String → Translation (MaterialRecord Image)) (depth : ℕ)
    (node : ShadingNode) (name : Option String) :
    Except TranslationError (MaterialRecord String) × Session :=
  let (outcome, after) :=
    session.run (graph.surfaceOr session.settings.glossyMode cutOff depth node name)
  (outcome.map (·.map after.textures.path), after)

/-- **Translations end**: where no mixture contains itself through the links to the sides of
mixtures, whatever cycles the other links make, the calls for a node of the graph end in one
translation, nested at most as deep as the graph has nodes. An evaluator with that bound, or a
larger one, never meets it: whatever it would do there, it gives the same result and leaves the same
session behind, and the error of mixtures that are nested too deep is not the result. -/
theorem surface_terminates {graph : Graph} (hacyclic : graph.MixAcyclic) {node : ShadingNode}
    (hnode : node ∈ graph.nodes) (name : Option String) (session : Session) :
    let mode := session.settings.glossyMode
    graph.Ends mode graph.size node name (graph.surface mode node name) ∧
      (∀ depth translation, graph.Ends mode depth node name translation →
        translation = graph.surface mode node name) ∧
      (∀ cutOff, ∀ depth ≥ graph.size,
        session.surfaceOr graph cutOff depth node name = session.surface graph node name) ∧
      (session.surface graph node name).1 ≠ .error (.unsupportedFeature .cyclicMix) := by
  have hends : graph.Ends session.settings.glossyMode graph.size node name
      (graph.surface session.settings.glossyMode node name) :=
    graph.ends_surface hacyclic hnode name
  refine ⟨hends, fun depth translation hends' => hends'.unique hends, ?_, ?_⟩
  · intro cutOff depth hdepth
    unfold surfaceOr
    rw [hends.surfaceOr_eq hdepth]
    rfl
  · intro hcyclic
    have herror := surface_eq_error_iff.mp hcyclic
    have hplain := graph.surface_plain node hacyclic session.settings.glossyMode hnode name
    exact hplain.bounded _ herror rfl

end Session

/-- A coat over paint. The grain that decides their mixture is placed by that mixture, and so are
the bumps of the coat. -/
def NodeTree.tangle : NodeTree where
  nodes := [
    { id := "layers", idname := "ShaderNodeMixShader", inputs := .ofList [("Fac", .scalar 0.5)] },
    { id := "coat", idname := "ShaderNodeBsdfGlossy",
      inputs := .ofList [("Color", .scalar 0.9), ("Roughness", .scalar 0.1)] },
    { id := "paint", idname := "ShaderNodeBsdfDiffuse" },
    { id := "bumps", idname := "ShaderNodeNormalMap",
      inputs := .ofList [("Strength", .scalar 1)] },
    { id := "grain", idname := "ShaderNodeTexImage", image := some { name := "grain.png" } }]
  connections := [
    { source := ⟨"coat", "BSDF"⟩, target := ⟨"layers", "Shader"⟩ },
    { source := ⟨"paint", "BSDF"⟩, target := ⟨"layers", "Shader_001"⟩ },
    { source := ⟨"grain", "Color"⟩, target := ⟨"layers", "Fac"⟩ },
    { source := ⟨"layers", "Shader"⟩, target := ⟨"grain", "Vector"⟩ },
    { source := ⟨"bumps", "Normal"⟩, target := ⟨"coat", "Normal"⟩ },
    { source := ⟨"grain", "Color"⟩, target := ⟨"bumps", "Color"⟩ },
    { source := ⟨"grain", "Color"⟩, target := ⟨"paint", "Color"⟩ }]

/-- The tangle runs in circles through the amount and through the normals of the coat, and is
translated all the same. -/
theorem Session.surface_terminates_tangle :
    Graph.ofTree NodeTree.tangle = .ok NodeTree.tangle.graph ∧
      NodeTree.tangle.graph.MixAcyclic ∧
      ∃ layers ∈ NodeTree.tangle.graph.nodes,
        ((NodeTree.tangle.graph.feeding? layers "Fac").bind
          (NodeTree.tangle.graph.feeding? · "Vector")).map ShadingNode.id = some layers.id ∧
        ((start {}).surface NodeTree.tangle.graph layers (some "Tangle")).1.isOk ∧
        ∀ cutOff, (start {}).surfaceOr NodeTree.tangle.graph cutOff 5 layers (some "Tangle") =
          (start {}).surface NodeTree.tangle.graph layers (some "Tangle") := by
  have hacyclic : NodeTree.tangle.graph.MixAcyclic := by
    have hsides : ∀ node ∈ NodeTree.tangle.graph.nodes, ∀ name ∈ ["Shader", "Shader_001"],
        ∀ side ∈ NodeTree.tangle.graph.feeding? node name, side.kind ≠ .mix := by
      decide +kernel
    exact Graph.mixAcyclic_of_sides hsides
  let layers := NodeTree.tangle.graph.nodes.head (by decide)
  have hlayers : layers ∈ NodeTree.tangle.graph.nodes := List.head_mem _
  obtain ⟨-, -, hbounded, -⟩ := surface_terminates hacyclic hlayers (some "Tangle") (start {})
  refine ⟨rfl, hacyclic, layers, hlayers, by decide +kernel, by decide +kernel, fun cutOff => ?_⟩
  exact hbounded cutOff 5 (by decide)

end ShadingExport
