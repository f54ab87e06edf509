import ShadingExport.Proofs.Surface.Validity
import ShadingExport.Proofs.Session.Rendering
import ShadingExport.Proofs.Translation.Reports

/-!
# Blends mirror mixtures

The mixtures below a node unfold to a binary tree (`Graph.Unfolds`): a mixture has the trees of its
two sides below it, once for every use, and every other node is a leaf. The blends of a record make
a binary tree too, read through perturbed normals (`MaterialRecord.mixtures`). If a node translates,
these are the same tree, and at every position of it the record is what the node there translates to
on its own (`Graph.Mirrors`). A translation tells what the nodes of its tree tell, in the order in
which they are met (`Graph.reportsOver`), and fails if one of the nodes below fails on its own.
-/

namespace ShadingExport

open Translation

variable {τ : Type}

/-! ## Trees of mixtures -/

/-- A binary tree with a value at every position. -/
inductive MixTree (α : Type) where
  /-- No mixture. -/
  | leaf (value : α)
  /-- A mixture of two trees. -/
  | mixture (value : α) (first second : MixTree α)

/-- Two trees of the same shape, with related values at each position. -/
inductive MixTree.Matches {α β : Type} (related : α → β → Prop) : MixTree α → MixTree β → Prop where
  /-- Two leaves. -/
  | leaf {value : α} {value' : β} (h : related value value') :
    Matches related (.leaf value) (.leaf value')
  /-- Two mixtures whose sides match. -/
  | mixture {value : α} {value' : β} (h : related value value') {first second : MixTree α}
    {first' second' : MixTree β} (hfirst : Matches related first first')
    (hsecond : Matches related second second') :
    Matches related (.mixture value first second) (.mixture value' first' second')

/-! ## Reading records -/

namespace MaterialRecord

/-- The material of a record below all perturbations of normals. -/
def core : MaterialRecord τ → Material τ (MaterialRecord τ)
  | ⟨_, .normalMap _ _ inner⟩ => inner.core
  | ⟨_, material⟩ => material

/-- What perturbs the normals of a record, from the outside to its core. -/
def wrappers : MaterialRecord τ → List (VaryingColor τ × Option Float)
  | ⟨_, .normalMap normals strength inner⟩ => (normals, strength) :: inner.wrappers
  | _ => []

/-- The tree of the blends in a record, where the record is the core of another one. -/
def mixturesOf (whole : MaterialRecord τ) : MaterialRecord τ → MixTree (MaterialRecord τ)
  | ⟨_, .blend _ first second⟩ =>
    .mixture whole (mixturesOf first first) (mixturesOf second second)
  | ⟨_, .normalMap _ _ inner⟩ => mixturesOf whole inner
  | _ => .leaf whole

/-- The tree of the blends in a record, read through perturbed normals. At every position stands the
record that begins there. -/
def mixtures (record : MaterialRecord τ) : MixTree (MaterialRecord τ) := mixturesOf record record

/-- The record with its normals perturbed once, or not at all. -/
def perturbedBy (record : MaterialRecord τ) :
    Option (VaryingColor τ × Option Float) → MaterialRecord τ
  | none => record
  | some (normals, strength) =>
    ⟨record.name, .normalMap normals strength ⟨none, record.material⟩⟩

section Perturbed

variable {name : Option String} {material : Material τ (MaterialRecord τ)}
  (perturbation : Option (VaryingColor τ × Option Float))

theorem core_perturbedBy (hplain : material.isNormalMap = false) :
    ((⟨name, material⟩ : MaterialRecord τ).perturbedBy perturbation).core = material := by
  cases perturbation <;> cases material <;> first | rfl | cases hplain

theorem wrappers_perturbedBy (hplain : material.isNormalMap = false) :
    ((⟨name, material⟩ : MaterialRecord τ).perturbedBy perturbation).wrappers =
      perturbation.toList := by
  cases perturbation <;> cases material <;> first | rfl | cases hplain

/-- A perturbed blend reads as a mixture. -/
theorem mixtures_perturbedBy_blend (amount : VaryingScalar τ) (first second : MaterialRecord τ) :
    let record := (⟨name, .blend amount first second⟩ : MaterialRecord τ).perturbedBy perturbation
    record.mixtures = .mixture record first.mixtures second.mixtures := by
  cases perturbation <;> rfl

/-- A perturbed material that nests no records reads as a leaf. -/
theorem mixtures_perturbedBy_of_parts (hparts : material.parts = []) :
    let record := (⟨name, material⟩ : MaterialRecord τ).perturbedBy perturbation
    record.mixtures = .leaf record := by
  cases perturbation <;> cases material <;> first | rfl | cases hparts

end Perturbed

end MaterialRecord

/-! ## Unfolding mixtures -/

/-- The normal input of a node, if it is linked. -/
def ShadingNode.linkedNormal? (node : ShadingNode) : Option Socket :=
  (node.input? "Normal").filter Socket.isLinked

namespace Graph

variable {graph : Graph} {node : ShadingNode} {mode : GlossyMode}

/-- The tree that the mixtures below a node unfold to. -/
inductive Unfolds (graph : Graph) : ShadingNode → MixTree ShadingNode → Prop where
  /-- What is no mixture stands for itself. -/
  | leaf {node : ShadingNode} (hkind : node.kind ≠ .mix) : Unfolds graph node (.leaf node)
  /-- A mixture has two sides, in order. -/
  | mixture {node first second : ShadingNode} (hkind : node.kind = .mix)
    (hfirst : graph.feeding? node "Shader" = some first)
    (hsecond : graph.feeding? node "Shader_001" = some second) {left right : MixTree ShadingNode}
    (hleft : Unfolds graph first left) (hright : Unfolds graph second right) :
    Unfolds graph node (.mixture node left right)

/-- A node unfolds in one way. -/
theorem Unfolds.unique {tree tree' : MixTree ShadingNode} (h : graph.Unfolds node tree)
    (h' : graph.Unfolds node tree') : tree = tree' := by
  induction h generalizing tree' with
  | leaf hkind =>
    cases h' with
    | leaf => rfl
    | mixture hkind' => exact absurd hkind' hkind
  | mixture hkind hfirst hsecond _ _ ihleft ihright =>
    cases h' with
    | leaf hkind' => exact absurd hkind hkind'
    | mixture _ hfirst' hsecond' hleft hright =>
      cases hfirst.symm.trans hfirst'
      cases hsecond.symm.trans hsecond'
      rw [ihleft hleft, ihright hright]

/-! ## The parts of a translation -/

/-- The amount of a mixture. -/
def amount (graph : Graph) (node : ShadingNode) : Translation (VaryingScalar Image) := do
  let fac ← node.getInput "Fac"
  graph.scalar fac

/-- What perturbs the normals of a node: its normal input, if that is linked. -/
def perturbation (graph : Graph) (node : ShadingNode) :
    Translation (Option (VaryingColor Image × Option Float)) :=
  match node.linkedNormal? with
  | none => return none
  | some normal => do
    let normals ← graph.color normal
    let strength ← graph.normalStrength normal
    return some (normals, strength)

/-- Perturbing a record is finding what perturbs the normals of its node. -/
theorem perturbed_eq (record : MaterialRecord Image) :
    graph.perturbed node record = record.perturbedBy <$> graph.perturbation node := by
  unfold perturbed perturbation ShadingNode.linkedNormal?
  cases hnormal : node.input? "Normal" with
  | none => rfl
  | some normal =>
    cases hlink : normal.isLinked with
    | false => simp [Option.filter, hlink, MaterialRecord.perturbedBy]
    | true => simp [Option.filter, hlink, withNormals, MaterialRecord.perturbedBy]

/-- A perturbation is found exactly for a linked normal input. -/
theorem isSome_perturbation :
    (graph.perturbation node).Ensures fun _ perturbation =>
      perturbation.isSome = node.linkedNormal?.isSome := by
  unfold perturbation
  split
  · next hnone => simp [hnone]
  · next normal hsome =>
    simp only [ensures_bind, ensures_pure, hsome]
    exact fun _ _ _ _ => rfl

/-- Naming a record comes after its translation. -/
theorem surface_eq_map (name : Option String) :
    graph.surface mode node name =
      (fun record => { record with name }) <$> graph.surface mode node none := by
  have hstep : ∀ side, graph.surfaceStep mode side node name =
      (fun record => { record with name }) <$> graph.surfaceStep mode side node none := by
    intro side
    have hname : ∀ (material : Material Image (MaterialRecord Image)) perturbation,
        let unnamed := (⟨none, material⟩ : MaterialRecord Image).perturbedBy perturbation
        (⟨name, material⟩ : MaterialRecord Image).perturbedBy perturbation =
          ⟨name, unnamed.material⟩ := by
      intro material perturbation
      cases perturbation <;> rfl
    simp only [surfaceStep, map_bind, perturbed_eq, Functor.map_map, ← hname]
  unfold surface
  cases graph.size with
  | zero => rfl
  | succ depth => exact hstep _

/-! ## Leaves -/

section Leaves

theorem diffuse_parts : (graph.diffuse node).Ensures fun _ material => material.parts = [] := by
  unfold diffuse
  simp only [bind_pure_comp]
  refine ensures_ite ?_ ?_
  · simp only [ensures_bind, ensures_report, ensures_map]
    exact fun _ _ => rfl
  · rw [ensures_map]
    exact fun _ _ => rfl

theorem glossyExponent_parts {color : Socket} {distribution : Option Microfacet}
    {material : Float → Microfacet → VaryingColor Image → Material Image (MaterialRecord Image)}
    (hmaterial : ∀ exponent distribution albedo,
      (material exponent distribution albedo).parts = []) :
    (graph.glossyExponent node color distribution material).Ensures fun _ material =>
      material.parts = [] := by
  unfold glossyExponent
  simp only [liftM_except, ensures_bind, ensures_ofExcept]
  intro socket _
  refine ensures_ite ensures_fail ?_
  simp only [ensures_bind, ensures_ofExcept]
  intro roughness _ albedo _
  split
  · split
    · rw [ensures_pure]
      exact hmaterial _ _ _
    · rw [ensures_pure]
      rfl
  · rw [ensures_pure]
    rfl

theorem glossyConductor_parts {color : Socket} {distribution : Option Microfacet} :
    (graph.glossyConductor node color distribution).Ensures fun _ material =>
      material.parts = [] := by
  unfold glossyConductor
  simp only [bind_pure_comp]
  split
  · simp only [ensures_bind, ensures_map]
    exact fun _ _ _ _ => rfl
  · rw [ensures_map]
    exact fun _ _ => rfl

theorem glossyMetal_parts {color : Socket} {distribution : Option Microfacet} :
    (graph.glossyMetal node color distribution).Ensures fun _ material => material.parts = [] := by
  unfold glossyMetal
  simp only [bind_pure_comp]
  split
  · simp only [ensures_bind, ensures_map]
    exact fun _ _ _ _ => rfl
  · rw [pure_bind, ensures_map]
    exact fun _ _ => rfl

theorem glossy_parts : (graph.glossy mode node).Ensures fun _ material => material.parts = [] := by
  unfold glossy
  simp only [liftM_except, ensures_bind, ensures_ofExcept]
  intro distribution _ color _
  cases mode with
  | roughConductor => exact glossyConductor_parts
  | metal => exact glossyMetal_parts
  | blinnPhong => exact glossyExponent_parts fun _ _ _ => rfl
  | phong => exact glossyExponent_parts fun _ _ _ => rfl

theorem glass_parts : (graph.glass node).Ensures fun _ material => material.parts = [] := by
  unfold glass
  simp only [liftM_except, ensures_bind, ensures_ofExcept]
  intro ior _ roughness _ distribution _ transmittance _
  split
  · exact ensures_pure.mpr rfl
  · refine ensures_ite ?_ ?_
    · exact ensures_pure.mpr rfl
    · exact ensures_pure.mpr rfl

theorem emission_parts : node.emission.Ensures fun _ material => material.parts = [] := by
  unfold ShadingNode.emission
  simp only [liftM_except, ensures_bind, ensures_ofExcept]
  intro strength _
  refine ensures_ite ensures_fail ?_
  simp only [ensures_bind, ensures_ofExcept]
  intro color _
  refine ensures_ite ensures_fail ?_
  simp only [ensures_bind, ensures_ofExcept]
  intro base _ factor _
  refine ensures_ite ?_ ?_
  · simp only [ensures_bind, ensures_report, ensures_pure]
    rfl
  · exact ensures_pure.mpr rfl

/-- Only mixtures nest the records of other nodes. -/
theorem material_parts {side : ShadingNode → Translation (MaterialRecord Image)}
    (hkind : node.kind ≠ .mix) :
    (graph.material mode side node).Ensures fun _ material => material.parts = [] := by
  unfold material
  split
  · exact diffuse_parts
  · exact glossy_parts
  · exact glass_parts
  · exact emission_parts
  · next hmix => exact absurd hmix hkind
  · exact ensures_fail

end Leaves

/-! ## Translations mirror mixtures -/

/-- What a translation is made of: a material, and what perturbs its normals. -/
theorem surface_parts (hacyclic : graph.MixAcyclic) (hnode : node ∈ graph.nodes) :
    (graph.surface mode node none).Ensures fun events record =>
      let material := graph.material mode (graph.surface mode · none) node
      ∃ body perturbation, material.outcome = .ok body ∧
        (graph.perturbation node).outcome = .ok perturbation ∧
        record = (⟨none, body⟩ : MaterialRecord Image).perturbedBy perturbation ∧
        reportsOf events =
          reportsOf material.events ++ reportsOf (graph.perturbation node).events := by
  rw [surface_eq_surfaceStep hacyclic hnode]
  simp only [surfaceStep, perturbed_eq, ensures_bind, ensures_emit, ensures_map]
  intro body hbody perturbation hperturbation
  refine ⟨body, perturbation, hbody, hperturbation, rfl, ?_⟩
  rw [reportsOf_append, reportsOf_append]
  rfl

/-- What a mixture is made of: its amount, and its sides in order. -/
theorem blend_parts {side : ShadingNode → Translation (MaterialRecord Image)} :
    (graph.blend side node).Ensures fun events material =>
      ∃ first second amount a b, graph.feeding? node "Shader" = some first ∧
        graph.feeding? node "Shader_001" = some second ∧
        (graph.amount node).outcome = .ok amount ∧ (side first).outcome = .ok a ∧
        (side second).outcome = .ok b ∧ material = .blend amount a b ∧
        events = (graph.amount node).events ++ (side first).events ++ (side second).events := by
  unfold blend
  split
  · next first second hfirst hsecond =>
    rw [← bind_assoc]
    change (graph.amount node >>= _).Ensures _
    simp only [ensures_bind, ensures_pure]
    intro amount hamount a ha b hb
    refine ⟨first, second, amount, a, b, hfirst, hsecond, hamount, ha, hb, rfl, ?_⟩
    rw [List.append_nil, List.append_assoc]
  · exact ensures_fail

/-- A record mirrors a node: it is what the node translates to on its own, and it is put together as
the node asks for. -/
structure Mirrors (graph : Graph) (mode : GlossyMode) (node : ShadingNode)
    (record : MaterialRecord Image) : Prop where
  /-- The node translates to the record on its own. -/
  alone : (graph.surface mode node none).outcome = .ok record
  /-- The normals are perturbed by the normal input of the node. -/
  perturbed : ∃ perturbation, (graph.perturbation node).outcome = .ok perturbation ∧
    record.wrappers = perturbation.toList
  /-- They are perturbed once if that input is linked, and else not at all. -/
  length_wrappers : record.wrappers.length = if node.linkedNormal?.isSome then 1 else 0
  /-- A mixture is blended by its own amount. -/
  blend : node.kind = .mix → ∃ amount first second,
    (graph.amount node).outcome = .ok amount ∧ record.core = .blend amount first second
  /-- Any other node nests no records but under its perturbed normals. -/
  leaf : node.kind ≠ .mix → record.core.parts = []

/-- A record made of a material and a perturbation mirrors its node if the material does. -/
theorem mirrors_of_parts {material : Material Image (MaterialRecord Image)}
    {perturbation : Option (VaryingColor Image × Option Float)}
    (hperturbation : (graph.perturbation node).outcome = .ok perturbation)
    (hrecord : (graph.surface mode node none).outcome =
      .ok ((⟨none, material⟩ : MaterialRecord Image).perturbedBy perturbation))
    (hplain : material.isNormalMap = false)
    (hblend : node.kind = .mix → ∃ amount first second,
      (graph.amount node).outcome = .ok amount ∧ material = .blend amount first second)
    (hleaf : node.kind ≠ .mix → material.parts = []) :
    graph.Mirrors mode node ((⟨none, material⟩ : MaterialRecord Image).perturbedBy perturbation)
    where
  alone := hrecord
  perturbed :=
    ⟨perturbation, hperturbation, MaterialRecord.wrappers_perturbedBy perturbation hplain⟩
  length_wrappers := by
    rw [MaterialRecord.wrappers_perturbedBy perturbation hplain,
      ← isSome_perturbation perturbation hperturbation]
    cases perturbation <;> rfl
  blend := by
    rw [MaterialRecord.core_perturbedBy perturbation hplain]
    exact hblend
  leaf := by
    rw [MaterialRecord.core_perturbedBy perturbation hplain]
    exact hleaf

/-- The reports on a tree of mixtures: on the amount of a mixture, on its two sides in order and on
what perturbs its normals. -/
def reportsOver (graph : Graph) (mode : GlossyMode) : MixTree ShadingNode → List Report
  | .leaf node => reportsOf (graph.surface mode node none).events
  | .mixture node first second =>
    reportsOf (graph.amount node).events ++ graph.reportsOver mode first ++
      graph.reportsOver mode second ++ reportsOf (graph.perturbation node).events

/-- **Blends mirror mixtures**: a record is the tree that its node unfolds to, and the reports are
those of this tree. -/
theorem surface_mirrors (hacyclic : graph.MixAcyclic) :
    ∀ node ∈ graph.nodes, (graph.surface mode node none).Ensures fun events record =>
      ∃ tree, graph.Unfolds node tree ∧ tree.Matches (graph.Mirrors mode) record.mixtures ∧
        reportsOf events = graph.reportsOver mode tree := by
  refine hacyclic.induction fun node hnode ih record hrecord => ?_
  obtain ⟨material, perturbation, hmaterial, hperturbation, rfl, hreports⟩ :=
    surface_parts hacyclic hnode record hrecord
  by_cases hkind : node.kind = .mix
  · rw [material_of_mix hkind] at hmaterial hreports
    obtain ⟨first, second, amount, a, b, hfirst, hsecond, hamount, ha, hb, rfl, hevents⟩ :=
      blend_parts material hmaterial
    -- The sides are mirrored by what they translate to.
    obtain ⟨left, hleft, hmatches, hreportsLeft⟩ := ih first ⟨hkind, .inl hfirst⟩ a ha
    obtain ⟨right, hright, hmatches', hreportsRight⟩ := ih second ⟨hkind, .inr hsecond⟩ b hb
    refine ⟨.mixture node left right, .mixture hkind hfirst hsecond hleft hright, ?_, ?_⟩
    · rw [MaterialRecord.mixtures_perturbedBy_blend]
      refine .mixture ?_ hmatches hmatches'
      exact mirrors_of_parts hperturbation hrecord rfl (fun _ => ⟨amount, a, b, hamount, rfl⟩)
        (absurd hkind)
    · rw [hreports, hevents, reportsOf_append, reportsOf_append, hreportsLeft, hreportsRight,
        reportsOver]
  · have hparts := material_parts hkind material hmaterial
    have hplain : material.isNormalMap = false := by
      cases material <;> first | rfl | cases hparts
    refine ⟨.leaf node, .leaf hkind, ?_, rfl⟩
    rw [MaterialRecord.mixtures_perturbedBy_of_parts perturbation hparts]
    refine .leaf ?_
    exact mirrors_of_parts hperturbation hrecord hplain (absurd · hkind) fun _ => hparts

/-! ## Failures below a node -/

/-- If a mixture translates, its sides do. -/
theorem succeeds_of_mixes (hacyclic : graph.MixAcyclic) (hnode : node ∈ graph.nodes)
    {side : ShadingNode} (hmixes : graph.Mixes node side)
    (h : (graph.surface mode node none).Succeeds) : (graph.surface mode side none).Succeeds := by
  obtain ⟨record, hrecord⟩ := h
  obtain ⟨material, perturbation, hmaterial, -⟩ := surface_parts hacyclic hnode record hrecord
  rw [material_of_mix hmixes.1] at hmaterial
  obtain ⟨first, second, amount, a, b, hfirst, hsecond, -, ha, hb, -⟩ :=
    blend_parts material hmaterial
  rcases hmixes.2 with hside | hside
  · cases hfirst.symm.trans hside
    exact ⟨a, ha⟩
  · cases hsecond.symm.trans hside
    exact ⟨b, hb⟩

/-- If a node translates, all nodes do that its mixtures lead to. -/
theorem succeeds_of_reachable (hacyclic : graph.MixAcyclic) (hnode : node ∈ graph.nodes)
    {other : ShadingNode} (hpath : Relation.ReflTransGen graph.Mixes node other)
    (h : (graph.surface mode node none).Succeeds) : (graph.surface mode other none).Succeeds := by
  have hreached : other ∈ graph.nodes ∧ (graph.surface mode other none).Succeeds := by
    induction hpath with
    | refl => exact ⟨hnode, h⟩
    | tail _ hmixes ih => exact ⟨hmixes.mem_nodes, succeeds_of_mixes hacyclic ih.1 hmixes ih.2⟩
  exact hreached.2

end Graph

/-! ## Sessions -/

namespace Session

variable {session : Session} {graph : Graph} {node : ShadingNode} {name : Option String}

/-- **Blends mirror mixtures**: if a node translates, its record is the tree that the node unfolds
to. At every position of the tree stands what the node there translates to on its own, blended by
the amount of that node if it is a mixture, and perturbed once or not at all as its normal input
asks for. The reports are those on the nodes of the tree, in the order of the tree. And if a node
below fails on its own, the whole translation fails. -/
theorem surface_mirrors_mixtures (hacyclic : graph.MixAcyclic) (hnode : node ∈ graph.nodes)
    (name : Option String) (session : Session) :
    let mode := session.settings.glossyMode
    let after := (session.surface graph node name).2
    (∀ record, (session.surface graph node name).1 = .ok record →
      ∃ (tree : MixTree ShadingNode) (skeleton : MaterialRecord Image),
        graph.Unfolds node tree ∧ tree.Matches (graph.Mirrors mode) skeleton.mixtures ∧
          after.textures.Renders { skeleton with name } record ∧
          after.reports = session.reports ++ graph.reportsOver mode tree) ∧
      ∀ other, Relation.ReflTransGen graph.Mixes node other →
        ∀ error, (session.surface graph other none).1 = .error error →
          ∃ error', (session.surface graph node name).1 = .error error' := by
  refine ⟨fun record hrecord => ?_, fun other hpath error hfailed => ?_⟩
  · obtain ⟨named, hnamed, rfl⟩ := surface_eq_ok_iff.mp hrecord
    have hfiles := (graph.surface_ensures session.settings.glossyMode node name named hnamed).2
    have hrendered := session.renders_perform hfiles
    have hreported := session.reports_perform
      (graph.surface session.settings.glossyMode node name).events
    -- The name comes last, so that the rest is told by the translation without one.
    cases hskeleton : (graph.surface session.settings.glossyMode node none).outcome with
    | error error =>
      rw [Graph.surface_eq_map name, outcome_map, hskeleton] at hnamed
      cases hnamed
    | ok skeleton =>
      rw [Graph.surface_eq_map name, outcome_map, hskeleton] at hnamed
      obtain rfl := Except.ok.inj hnamed
      obtain ⟨tree, hunfolds, hmatches, hreports⟩ :=
        Graph.surface_mirrors hacyclic node hnode skeleton hskeleton
      refine ⟨tree, skeleton, hunfolds, hmatches, hrendered, ?_⟩
      rw [← hreports, ← events_map, ← Graph.surface_eq_map name]
      exact hreported
  · cases houtcome : (graph.surface session.settings.glossyMode node name).outcome with
    | error error' => exact ⟨error', surface_eq_error_iff.mpr houtcome⟩
    | ok record =>
      have hsucceeds : (graph.surface session.settings.glossyMode node name).Succeeds :=
        ⟨record, houtcome⟩
      rw [Graph.surface_eq_map name, succeeds_map] at hsucceeds
      obtain ⟨_, hother⟩ := Graph.succeeds_of_reachable hacyclic hnode hpath hsucceeds
      cases (surface_eq_error_iff.mp hfailed).symm.trans hother

end Session

/-- Paint beside a bumpy mixture of a gloss and the same paint. -/
def NodeTree.lacquer : NodeTree where
  nodes := [
    { id := "outer", idname := "ShaderNodeMixShader", inputs := .ofList [("Fac", .scalar 0.5)] },
    { id := "inner", idname := "ShaderNodeMixShader", inputs := .ofList [("Fac", .scalar 0.25)] },
    { id := "gloss", idname := "ShaderNodeBsdfGlossy",
      inputs := .ofList [("Color", .scalar 0.9), ("Roughness", .scalar 0.1)] },
    { id := "paint", idname := "ShaderNodeBsdfDiffuse" },
    { id := "bumps", idname := "ShaderNodeTexImage", image := some { name := "bumps.png" } }]
  connections := [
    { source := ⟨"inner", "Shader"⟩, target := ⟨"outer", "Shader"⟩ },
    { source := ⟨"paint", "BSDF"⟩, target := ⟨"outer", "Shader_001"⟩ },
    { source := ⟨"gloss", "BSDF"⟩, target := ⟨"inner", "Shader"⟩ },
    { source := ⟨"paint", "BSDF"⟩, target := ⟨"inner", "Shader_001"⟩ },
    { source := ⟨"bumps", "Color"⟩, target := ⟨"inner", "Normal"⟩ }]

/-- The paint of the lacquer is met twice, once on either level of the tree. -/
theorem Session.surface_mirrors_mixtures_lacquer :
    NodeTree.lacquer.graph.MixAcyclic ∧
      ∃ outer ∈ NodeTree.lacquer.graph.nodes, ∃ inner gloss paint record,
        ((start {}).surface NodeTree.lacquer.graph outer (some "Lacquer")).1 = .ok record ∧
          ∃ skeleton : MaterialRecord Image,
            MixTree.Matches (NodeTree.lacquer.graph.Mirrors .roughConductor)
              (.mixture outer (.mixture inner (.leaf gloss) (.leaf paint)) (.leaf paint))
              skeleton.mixtures := by
  have hacyclic : NodeTree.lacquer.graph.MixAcyclic := by
    let rank (node : ShadingNode) :=
      if node.id = "outer" then 2 else if node.id = "inner" then 1 else 0
    have hrank : ∀ node ∈ NodeTree.lacquer.graph.nodes, ∀ name ∈ ["Shader", "Shader_001"],
        ∀ side ∈ NodeTree.lacquer.graph.feeding? node name, rank side < rank node := by
      decide +kernel
    refine Graph.mixAcyclic_of_rank rank fun node hnode side hmixes => ?_
    rcases hmixes.2 with hside | hside
    · exact hrank node hnode "Shader" (by decide) side hside
    · exact hrank node hnode "Shader_001" (by decide) side hside
  let outer := NodeTree.lacquer.graph.nodes.head (by decide)
  have houter : outer ∈ NodeTree.lacquer.graph.nodes := List.head_mem _
  have hunfolds : ∃ inner gloss paint, NodeTree.lacquer.graph.Unfolds outer
      (.mixture outer (.mixture inner (.leaf gloss) (.leaf paint)) (.leaf paint)) :=
    ⟨_, _, _, .mixture rfl rfl rfl (.mixture rfl rfl rfl (.leaf (by decide)) (.leaf (by decide)))
      (.leaf (by decide))⟩
  obtain ⟨inner, gloss, paint, hunfolds⟩ := hunfolds
  have hok : ((start {}).surface NodeTree.lacquer.graph outer (some "Lacquer")).1.isOk := by
    decide +kernel
  cases hrecord : ((start {}).surface NodeTree.lacquer.graph outer (some "Lacquer")).1 with
  | error error =>
    rw [hrecord] at hok
    cases hok
  | ok record =>
    obtain ⟨htree, -⟩ := surface_mirrors_mixtures hacyclic houter (some "Lacquer") (start {})
    obtain ⟨tree, skeleton, hunfolds', hmatches, -⟩ := htree record hrecord
    cases hunfolds.unique hunfolds'
    exact ⟨hacyclic, outer, houter, inner, gloss, paint, record, hrecord, skeleton, hmatches⟩

end ShadingExport
