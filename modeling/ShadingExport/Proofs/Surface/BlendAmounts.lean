import ShadingExport.Proofs.Surface.SocketValues

/-!
# Amounts of blends

A blend stands in a record for a mixture that the translated node reaches, and its amount is that of
the mixture (`Graph.surface_amounts`). A literal amount is what the mixture stores, whatever number
that is (`Graph.amount_eq_constant_iff`): it is not brought into the unit range, and no mixture is
rejected for it. So the literal amounts of a record lie between zero and one if and only if those do
which are stored at the mixtures that the node reaches (`Session.surface_unitAmounts_iff`).
-/

namespace ShadingExport

open Translation

variable {τ σ : Type}

/-! ## Amounts in a record -/

/-- The number lies between zero and one if it is the same everywhere. -/
def VaryingScalar.InUnitRange : VaryingScalar τ → Prop
  | .constant value => 0 ≤ value ∧ value ≤ 1
  | .texture _ | .fresnel _ => True

namespace MaterialRecord

/-- The amounts of all blends in a record, from the outside in. -/
def amounts : MaterialRecord τ → List (VaryingScalar τ)
  | ⟨_, .blend amount first second⟩ => amount :: (first.amounts ++ second.amounts)
  | ⟨_, .normalMap _ _ nested⟩ => nested.amounts
  | _ => []

/-- Every literal amount of a blend in the record lies between zero and one. -/
def UnitAmounts (record : MaterialRecord τ) : Prop :=
  ∀ amount ∈ record.amounts, amount.InUnitRange

/-- Only the literal amounts count. -/
theorem unitAmounts_iff {record : MaterialRecord τ} :
    record.UnitAmounts ↔ ∀ value, .constant value ∈ record.amounts → 0 ≤ value ∧ value ≤ 1 := by
  constructor
  · intro h value hvalue
    exact h (.constant value) hvalue
  · intro h amount hamount
    cases amount with
    | constant value => exact h value hamount
    | texture _ => trivial
    | fresnel _ => trivial

theorem amounts_named (name : Option String) (record : MaterialRecord τ) :
    ({ record with name } : MaterialRecord τ).amounts = record.amounts := by
  obtain ⟨_, material⟩ := record
  cases material <;> rfl

theorem amounts_perturbedBy (record : MaterialRecord τ)
    (perturbation : Option (VaryingColor τ × Option Float)) :
    (record.perturbedBy perturbation).amounts = record.amounts := by
  cases perturbation with
  | none => rfl
  | some perturbation => exact amounts_named none record

/-- A material that nests no records has no amounts. -/
theorem amounts_of_parts {name : Option String} {material : Material τ (MaterialRecord τ)}
    (hparts : material.parts = []) : (⟨name, material⟩ : MaterialRecord τ).amounts = [] := by
  cases material <;> first | rfl | cases hparts

/-- Placing textures keeps the amounts. -/
theorem amounts_map (rename : τ → σ) :
    ∀ record : MaterialRecord τ, (record.map rename).amounts = record.amounts.map (·.map rename)
  | ⟨_, .blend _ first second⟩ => by
    simp [map, amounts, amounts_map rename first, amounts_map rename second]
  | ⟨_, .normalMap _ _ nested⟩ => by simp [map, amounts, amounts_map rename nested]
  | ⟨_, .lambertian _⟩ | ⟨_, .roughConductor ..⟩ | ⟨_, .conductor _⟩ | ⟨_, .blinnPhong ..⟩
  | ⟨_, .phong ..⟩ | ⟨_, .metal ..⟩ | ⟨_, .dielectric ..⟩ | ⟨_, .thinDielectric ..⟩
  | ⟨_, .roughDielectric ..⟩ | ⟨_, .diffuseLight _⟩ => rfl

/-- Placing textures keeps the literal amounts. -/
theorem constant_mem_amounts_map {rename : τ → σ} {record : MaterialRecord τ} {value : Float} :
    .constant value ∈ (record.map rename).amounts ↔ .constant value ∈ record.amounts := by
  rw [amounts_map, List.mem_map]
  constructor
  · rintro ⟨amount, hamount, hmap⟩
    cases amount with
    | constant other =>
      cases hmap
      exact hamount
    | texture _ => cases hmap
    | fresnel _ => cases hmap
  · intro hvalue
    exact ⟨.constant value, hvalue, rfl⟩

end MaterialRecord

/-! ## Amounts of the mixtures that a node reaches -/

namespace Graph

variable {graph : Graph} {mode : GlossyMode} {node : ShadingNode}

/-- A node reaches a mixture, itself or one on a side of a mixture, and so on. -/
def ReachesMixture (graph : Graph) (node mixture : ShadingNode) : Prop :=
  Relation.ReflTransGen graph.Mixes node mixture ∧ mixture.kind = .mix

theorem ReachesMixture.mem_nodes {mixture : ShadingNode} (h : graph.ReachesMixture node mixture)
    (hnode : node ∈ graph.nodes) : mixture ∈ graph.nodes := by
  obtain ⟨hpath, -⟩ := h
  induction hpath with
  | refl => exact hnode
  | tail _ hmixes _ => exact hmixes.mem_nodes

/-- A mixture reaches itself and what its two sides reach. -/
theorem reachesMixture_iff_of_mix {first second mixture : ShadingNode} (hkind : node.kind = .mix)
    (hfirst : graph.feeding? node "Shader" = some first)
    (hsecond : graph.feeding? node "Shader_001" = some second) :
    graph.ReachesMixture node mixture ↔ mixture = node ∨
      graph.ReachesMixture first mixture ∨ graph.ReachesMixture second mixture := by
  constructor
  · rintro ⟨hpath, hmixture⟩
    rcases hpath.cases_head with rfl | ⟨side, ⟨-, hside⟩, hrest⟩
    · exact .inl rfl
    · rcases hside with hside | hside
      · cases hfirst.symm.trans hside
        exact .inr (.inl ⟨hrest, hmixture⟩)
      · cases hsecond.symm.trans hside
        exact .inr (.inr ⟨hrest, hmixture⟩)
  · rintro (rfl | ⟨hpath, hmixture⟩ | ⟨hpath, hmixture⟩)
    · exact ⟨.refl, hkind⟩
    · exact ⟨hpath.head ⟨hkind, .inl hfirst⟩, hmixture⟩
    · exact ⟨hpath.head ⟨hkind, .inr hsecond⟩, hmixture⟩

/-- What is no mixture reaches none. -/
theorem not_reachesMixture (hkind : node.kind ≠ .mix) {mixture : ShadingNode} :
    ¬graph.ReachesMixture node mixture := by
  rintro ⟨hpath, hmixture⟩
  rcases hpath.cases_head with rfl | ⟨side, hmixes, -⟩
  · exact hkind hmixture
  · exact hkind hmixes.1

/-- **The amounts in a record are those of the mixtures that its node reaches.** -/
theorem surface_amounts (hacyclic : graph.MixAcyclic) :
    ∀ node ∈ graph.nodes, (graph.surface mode node none).Ensures fun _ record =>
      ∀ amount, amount ∈ record.amounts ↔
        ∃ mixture, graph.ReachesMixture node mixture ∧
          (graph.amount mixture).outcome = .ok amount := by
  refine hacyclic.induction fun node hnode ih record hrecord other => ?_
  obtain ⟨material, perturbation, hmaterial, -, rfl, -⟩ :=
    surface_parts hacyclic hnode record hrecord
  rw [MaterialRecord.amounts_perturbedBy]
  by_cases hkind : node.kind = .mix
  · rw [material_of_mix hkind] at hmaterial
    obtain ⟨first, second, amount, a, b, hfirst, hsecond, hamount, ha, hb, rfl, -⟩ :=
      blend_parts material hmaterial
    -- The amount of the mixture itself comes first, then those of its sides.
    have hown : (graph.amount node).outcome = .ok other ↔ other = amount := by
      rw [hamount, Except.ok.injEq, eq_comm]
    have hleft := ih first ⟨hkind, .inl hfirst⟩ a ha other
    have hright := ih second ⟨hkind, .inr hsecond⟩ b hb other
    simp only [MaterialRecord.amounts, List.mem_cons, List.mem_append, hleft, hright,
      reachesMixture_iff_of_mix hkind hfirst hsecond, or_and_right, exists_or, exists_eq_left, hown]
  · rw [MaterialRecord.amounts_of_parts (material_parts hkind material hmaterial)]
    refine iff_of_false List.not_mem_nil ?_
    rintro ⟨mixture, hreaches, -⟩
    exact not_reachesMixture hkind hreaches

/-- **A literal amount is what the mixture stores**, whatever number that is. -/
theorem amount_eq_constant_iff (hlinks : graph.LinksResolve) (hnode : node ∈ graph.nodes)
    {value : Float} :
    (graph.amount node).outcome = .ok (.constant value) ↔
      node.HasLiteral "Fac" (.scalar value) := by
  constructor
  · intro h
    obtain ⟨fac, hfac, hreads⟩ := amount_reads hlinks hnode _ h
    cases hreads with
    | literal hlink hvalue => exact ⟨fac, hfac, hlink, hvalue⟩
  · rintro ⟨fac, hfac, hlink, hvalue⟩
    have hsource := (upstream?_eq_none_iff hlinks hnode hfac).mpr hlink
    have hname : fac.name ≠ roughnessName := by
      rw [ShadingNode.name_of_input? hfac]
      decide
    simp only [amount, scalar, liftM_except, ShadingNode.getInput_eq_ok.mpr hfac,
      Socket.getNumber_eq_ok.mpr hvalue, hsource, ofExcept_ok_bind, if_neg hname, outcome_pure]

/-- The literal amounts in a record are what the mixtures store that its node reaches. -/
theorem surface_literalAmounts (hlinks : graph.LinksResolve) (hacyclic : graph.MixAcyclic)
    (hnode : node ∈ graph.nodes) :
    (graph.surface mode node none).Ensures fun _ record =>
      ∀ value, .constant value ∈ record.amounts ↔
        ∃ mixture, graph.ReachesMixture node mixture ∧
          mixture.HasLiteral "Fac" (.scalar value) := by
  intro record hrecord value
  rw [surface_amounts hacyclic node hnode record hrecord]
  refine exists_congr fun mixture => and_congr_right fun hreaches => ?_
  exact amount_eq_constant_iff hlinks (hreaches.mem_nodes hnode)

end Graph

/-! ## Sessions -/

namespace Session

variable {session : Session} {graph : Graph} {node : ShadingNode} {name : Option String}
  {record : MaterialRecord String}

/-- **Literal amounts are as good as what is stored**: in the graph of a tree whose mixtures do not
contain themselves, if a node translates, then the literal amounts in its record are the numbers
that are stored at the mixtures which the node reaches. So they all lie between zero and one if and
only if these numbers do: no amount is brought into that range, and none outside it is rejected. -/
theorem surface_unitAmounts_iff {tree : NodeTree} (hgraph : Graph.ofTree tree = .ok graph)
    (hacyclic : graph.MixAcyclic) (hnode : node ∈ graph.nodes)
    (h : (session.surface graph node name).1 = .ok record) :
    (∀ value, .constant value ∈ record.amounts ↔
        ∃ mixture, graph.ReachesMixture node mixture ∧
          mixture.HasLiteral "Fac" (.scalar value)) ∧
      (record.UnitAmounts ↔ ∀ mixture, graph.ReachesMixture node mixture →
        ∀ value, mixture.HasLiteral "Fac" (.scalar value) → 0 ≤ value ∧ value ≤ 1) := by
  obtain ⟨skeleton, hskeleton, hrendered⟩ := surface_renders_unnamed h
  have hliteral : ∀ value, .constant value ∈ record.amounts ↔
      ∃ mixture, graph.ReachesMixture node mixture ∧
        mixture.HasLiteral "Fac" (.scalar value) := by
    intro value
    rw [hrendered.eq_map, MaterialRecord.constant_mem_amounts_map, MaterialRecord.amounts_named]
    exact Graph.surface_literalAmounts (Graph.linksResolve_of_ofTree hgraph) hacyclic hnode skeleton
      hskeleton value
  refine ⟨hliteral, ?_⟩
  rw [MaterialRecord.unitAmounts_iff]
  constructor
  · intro hunit mixture hreaches value hstored
    exact hunit value ((hliteral value).mpr ⟨mixture, hreaches, hstored⟩)
  · intro hunit value hvalue
    obtain ⟨mixture, hreaches, hstored⟩ := (hliteral value).mp hvalue
    exact hunit mixture hreaches value hstored

end Session

/-- The glaze stores a quarter and a half, and so its record has no amounts beyond one. -/
theorem Session.surface_unitAmounts_iff_glaze :
    let session := start { glossyMode := .phong }
    Graph.ofTree .glaze = .ok NodeTree.glaze.graph ∧ NodeTree.glaze.graph.MixAcyclic ∧
      ∃ outer ∈ NodeTree.glaze.graph.nodes, ∃ record,
        (session.surface NodeTree.glaze.graph outer (some "Glaze")).1 = .ok record ∧
          .constant 0.25 ∈ record.amounts ∧ record.UnitAmounts := by
  intro session
  have hgraph : Graph.ofTree .glaze = .ok NodeTree.glaze.graph := rfl
  let outer := NodeTree.glaze.graph.nodes.head (by decide)
  have houter : outer ∈ NodeTree.glaze.graph.nodes := List.head_mem _
  have hok : (session.surface NodeTree.glaze.graph outer (some "Glaze")).1.isOk := by
    decide +kernel
  have hstored : ∀ node ∈ NodeTree.glaze.graph.nodes, ∀ socket ∈ node.input? "Fac",
      ∀ literal ∈ socket.default, ∀ value ∈ literal.scalar?, 0 ≤ value ∧ value ≤ 1 := by
    decide +kernel
  cases hrecord : (session.surface NodeTree.glaze.graph outer (some "Glaze")).1 with
  | error error =>
    rw [hrecord] at hok
    cases hok
  | ok record =>
    obtain ⟨hliteral, hunit⟩ :=
      surface_unitAmounts_iff hgraph NodeTree.glaze_mixAcyclic houter hrecord
    refine ⟨hgraph, NodeTree.glaze_mixAcyclic, outer, houter, record, hrecord, ?_, ?_⟩
    · exact (hliteral 0.25).mpr ⟨outer, ⟨.refl, rfl⟩, _, rfl, rfl, rfl⟩
    · refine hunit.mpr fun mixture hreaches value hvalue => ?_
      obtain ⟨socket, hsocket, -, hdefault⟩ := hvalue
      have hmixture := hreaches.mem_nodes houter
      exact hstored mixture hmixture socket hsocket (.scalar value) hdefault value rfl

/-- Chalk over paint, in twice the amount that there is room for. -/
def NodeTree.overdose : NodeTree where
  nodes := [
    { id := "mix", idname := "ShaderNodeMixShader", inputs := .ofList [("Fac", .scalar 2.0)] },
    { id := "paint", idname := "ShaderNodeBsdfDiffuse" },
    { id := "chalk", idname := "ShaderNodeBsdfDiffuse" }]
  connections := [
    { source := ⟨"paint", "BSDF"⟩, target := ⟨"mix", "Shader"⟩ },
    { source := ⟨"chalk", "BSDF"⟩, target := ⟨"mix", "Shader_001"⟩ }]

/-- An amount of two is written as it is. -/
theorem Session.surface_unitAmounts_overdose :
    Graph.ofTree .overdose = .ok NodeTree.overdose.graph ∧ NodeTree.overdose.graph.MixAcyclic ∧
      ∃ mix ∈ NodeTree.overdose.graph.nodes, ∃ record,
        ((start {}).surface NodeTree.overdose.graph mix none).1 = .ok record ∧
          .constant 2.0 ∈ record.amounts ∧ ¬record.UnitAmounts := by
  have hacyclic : NodeTree.overdose.graph.MixAcyclic :=
    Graph.mixAcyclic_of_sides (by decide +kernel)
  refine ⟨rfl, hacyclic, NodeTree.overdose.graph.nodes.head (by decide), List.head_mem _, _, rfl,
    List.mem_cons_self, fun hunit => ?_⟩
  have hbounds := hunit (.constant 2.0) List.mem_cons_self
  exact absurd hbounds.2 (by decide +kernel)

end ShadingExport
