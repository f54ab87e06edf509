import ShadingExport.Proofs.Graph.Mixing
import ShadingExport.Proofs.Surface.Grammar
import ShadingExport.Proofs.Translation.Success
import ShadingExport.Session.Basic

/-!
# Translation accepts the grammar

Where mixtures do not contain themselves, translation accepts exactly the nodes that the grammar
supports, in every session (`Graph.surface_succeeds_iff_supported`). The statement is put together
from one equivalence per translator, each of which reads the checks of that translator once; the
two directions of a step over a mixture then need the same direction for its sides.
-/

namespace ShadingExport

open Translation

/-! ## What the readers accept -/

theorem Socket.exists_getNumber_iff {socket : Socket} :
    (∃ value, socket.getNumber = .ok value) ↔ socket.HoldsNumber :=
  exists_congr fun _ => Socket.getNumber_eq_ok

theorem Socket.exists_getColor_iff {socket : Socket} :
    (∃ color, socket.getColor = .ok color) ↔ socket.HoldsColor := by
  simp only [Socket.getColor_eq_ok, HoldsColor, ← Literal.exists_color?_eq_some_iff]
  rw [exists_comm]
  exact exists_congr fun _ => exists_and_left

theorem ShadingNode.exists_constantColor_iff {node : ShadingNode} :
    (∃ color, node.constantColor = .ok color) ↔ node.HasConstantColor := by
  simp only [constantColor_eq_ok, HasConstantColor, ← Literal.exists_color?_eq_some_iff]
  rw [exists_comm]
  exact exists_congr fun _ => exists_and_left

/-- Only the name of the sharp distribution gives that distribution. -/
theorem Distribution.ofName?_eq_sharp_iff {name : String} :
    Distribution.ofName? name = some .sharp ↔ name = "SHARP" := by
  unfold Distribution.ofName?
  split <;> simp_all

theorem Distribution.exists_ofName?_iff {name : String} :
    (∃ distribution, Distribution.ofName? name = some distribution) ↔
      name ∈ ["SHARP", "GGX", "BECKMANN", "ASHIKHMIN_SHIRLEY", "MULTI_GGX"] := by
  unfold Distribution.ofName?
  split <;> simp_all

theorem ShadingNode.distribution_eq_ok {node : ShadingNode} {distribution : Distribution} :
    node.distribution = .ok distribution ↔
      Distribution.ofName? node.distributionName = some distribution := by
  rw [ShadingNode.distribution, Distribution.parse, ← distributionName]
  cases Distribution.ofName? node.distributionName <;> simp

theorem ShadingNode.exists_distribution_iff {node : ShadingNode} :
    (∃ distribution, node.distribution = .ok distribution) ↔ node.HasDistribution := by
  simp only [distribution_eq_ok]
  exact Distribution.exists_ofName?_iff

/-- The renderer has no counterpart of the sharp distribution alone. -/
theorem Distribution.microfacet?_eq_none_iff {distribution : Distribution} :
    distribution.microfacet? = none ↔ distribution = .sharp := by
  cases distribution <;> simp [microfacet?]

/-! ## What sockets accept -/

theorem Socket.isLinked_iff {socket : Socket} : socket.isLinked = true ↔ socket.link ≠ none :=
  Option.isSome_iff_ne_none

namespace ShadingNode

variable {node : ShadingNode}

theorem texture_succeeds : node.texture.Succeeds ↔ node.image.isSome := by
  unfold texture
  simp only [liftM_except, succeeds_ofExcept_bind, getImage_eq_ok, succeeds_emit_bind,
    succeeds_ite_report, succeeds_pure, and_true, Option.isSome_iff_exists]

theorem refractionIndex_succeeds : node.refractionIndex.Succeeds ↔ node.HasIor := by
  unfold refractionIndex HasIor
  simp only [liftM_except, succeeds_ofExcept_bind, getInput_eq_ok, succeeds_ite_report,
    succeeds_ofExcept, Socket.exists_getNumber_iff]

end ShadingNode

namespace Graph

variable {graph : Graph} {mode : GlossyMode} {node : ShadingNode}

/-- The texture of a normal map translates if the map is in tangent space and fed by an image. -/
theorem tangentNormals_succeeds :
    (graph.tangentNormals node).Succeeds ↔ graph.MapsTangentNormals node := by
  unfold tangentNormals MapsTangentNormals
  simp only [liftM_except, succeeds_ite_fail, not_not, succeeds_ofExcept_bind,
    ShadingNode.getInput_eq_ok]
  refine and_congr_right fun _ => exists_congr fun color => and_congr_right fun _ => ?_
  cases htexture : graph.upstream? color with
  | none => simp
  | some texture =>
    by_cases hkind : texture.kind = .imageTexture
    · simp [hkind, ShadingNode.texture_succeeds, ShadingNode.SamplesImage]
    · simp [hkind, ShadingNode.SamplesImage]

section Inputs

variable (hlinks : graph.LinksResolve) (hnode : node ∈ graph.nodes) {name : String}
  {socket : Socket} (hsocket : node.input? name = some socket)

include hlinks hnode hsocket

theorem scalar_succeeds : (graph.scalar socket).Succeeds ↔ graph.GivesNumber socket := by
  unfold scalar
  cases hsource : graph.upstream? socket with
  | none =>
    have hlink := (upstream?_eq_none_iff hlinks hnode hsocket).mp hsource
    rw [givesNumber_iff_of_link_eq_none hlink]
    simp only [bind_pure_comp, liftM_except, succeeds_map, succeeds_ofExcept,
      Socket.exists_getNumber_iff]
  | some source =>
    rw [givesNumber_iff_of_upstream? hsource, ShadingNode.SamplesImage]
    dsimp only
    split
    · next hkind => simp [hkind, ShadingNode.texture_succeeds]
    · next hkind => simp [hkind, ShadingNode.refractionIndex_succeeds]
    · next htexture hfresnel =>
      -- Every other kind fails, and none of the rules speaks of it.
      refine iff_of_false (not_succeeds_fail _) ?_
      rintro (⟨hkind, -⟩ | ⟨hkind, -⟩)
      exacts [htexture hkind, hfresnel hkind]

theorem color_succeeds : (graph.color socket).Succeeds ↔ graph.GivesColor socket := by
  unfold color
  cases hsource : graph.upstream? socket with
  | none =>
    have hlink := (upstream?_eq_none_iff hlinks hnode hsocket).mp hsource
    rw [givesColor_iff_of_link_eq_none hlink]
    simp only [bind_pure_comp, liftM_except, succeeds_map, succeeds_ofExcept,
      Socket.exists_getColor_iff]
  | some source =>
    rw [givesColor_iff_of_upstream? hsource, ShadingNode.SamplesImage]
    dsimp only
    split
    · next hkind => simp [hkind, ShadingNode.texture_succeeds]
    · next hkind => simp [hkind, tangentNormals_succeeds]
    · next hkind => simp [hkind, ShadingNode.exists_constantColor_iff]
    · next htexture hnormalMap hrgb =>
      refine iff_of_false (not_succeeds_fail _) ?_
      rintro (⟨hkind, -⟩ | ⟨hkind, -⟩ | ⟨hkind, -⟩)
      exacts [htexture hkind, hrgb hkind, hnormalMap hkind]

end Inputs

/-! ## The five kinds of surfaces -/

section Surfaces

variable (hlinks : graph.LinksResolve) (hnode : node ∈ graph.nodes)

include hlinks hnode

theorem optionalColor_succeeds {name : String} :
    (graph.optionalColor node name).Succeeds ↔ graph.OptionalColorInput node name := by
  unfold optionalColor OptionalColorInput
  cases hsocket : node.input? name with
  | none => simp
  | some socket =>
    simp only [bind_pure_comp, succeeds_map, color_succeeds hlinks hnode hsocket,
      Option.some.injEq, forall_eq']

theorem roughness_succeeds :
    (graph.roughness node).Succeeds ↔ graph.NumberInput node "Roughness" := by
  unfold roughness
  simp only [liftM_except, succeeds_ofExcept_bind, ShadingNode.getInput_eq_ok]
  exact exists_congr fun socket => and_congr_right fun hsocket =>
    scalar_succeeds hlinks hnode hsocket

theorem diffuse_succeeds :
    (graph.diffuse node).Succeeds ↔ graph.OptionalColorInput node "Color" := by
  unfold diffuse
  simp only [bind_pure_comp, succeeds_ite_report, succeeds_map, optionalColor_succeeds hlinks hnode]

/-- A glossy conductor needs a roughness only if it has a distribution. -/
theorem glossyConductor_succeeds {color : Socket} {distribution : Option Microfacet} :
    (graph.glossyConductor node color distribution).Succeeds ↔
      (distribution = none ∨ graph.NumberInput node "Roughness") ∧
        (graph.color color).Succeeds := by
  cases distribution with
  | none => simp [glossyConductor]
  | some distribution =>
    refine (succeeds_bind_of_forall fun roughness =>
      succeeds_bind_of_succeeds fun albedo => succeeds_pure _).trans ?_
    simp [roughness_succeeds hlinks hnode]

/-- A metal needs a roughness only if it has a distribution. -/
theorem glossyMetal_succeeds {color : Socket} {distribution : Option Microfacet} :
    (graph.glossyMetal node color distribution).Succeeds ↔
      (distribution = none ∨ graph.NumberInput node "Roughness") ∧
        (graph.color color).Succeeds := by
  cases distribution with
  | none => simp [glossyMetal]
  | some distribution =>
    refine (succeeds_bind_of_forall fun roughness =>
      succeeds_bind_of_succeeds fun albedo => succeeds_pure _).trans ?_
    simp [roughness_succeeds hlinks hnode]

omit hlinks hnode in
/-- A glossy surface with an exponent needs a literal roughness, sharp or not. -/
theorem glossyExponent_succeeds {color : Socket} {distribution : Option Microfacet}
    {material : Float → Microfacet → VaryingColor Image → Material Image (MaterialRecord Image)} :
    (graph.glossyExponent node color distribution material).Succeeds ↔
      node.LiteralNumber "Roughness" ∧ (graph.color color).Succeeds := by
  unfold glossyExponent
  simp only [liftM_except, succeeds_ofExcept_bind, ShadingNode.getInput_eq_ok, succeeds_ite_fail,
    Socket.isLinked_iff, not_not]
  refine (exists_congr fun socket => and_congr_right fun _ => and_congr_right fun _ =>
    exists_congr fun value => and_congr_right fun _ =>
      succeeds_bind_of_succeeds fun albedo => ?_).trans ?_
  · -- Which material the exponent gives decides nothing.
    cases distribution with
    | none => exact succeeds_pure _
    | some distribution => dsimp only; split <;> exact succeeds_pure _
  · constructor
    · rintro ⟨socket, hsocket, hlink, value, hvalue, hcolor⟩
      exact ⟨⟨socket, hsocket, hlink, value, Socket.getNumber_eq_ok.mp hvalue⟩, hcolor⟩
    · rintro ⟨⟨socket, hsocket, hlink, value, hvalue⟩, hcolor⟩
      exact ⟨socket, hsocket, hlink, value, Socket.getNumber_eq_ok.mpr hvalue, hcolor⟩

/-- A glossy surface looks for its distribution and the presence of its color before the glossy mode
decides about the roughness. -/
theorem glossy_succeeds :
    (graph.glossy mode node).Succeeds ↔
      node.HasDistribution ∧ graph.ColorInput node "Color" ∧ graph.GlossyRoughness node mode := by
  have hsharp : ∀ distribution, node.distribution = .ok distribution →
      (distribution.microfacet? = none ↔ node.distributionName = "SHARP") := by
    intro distribution hdistribution
    rw [ShadingNode.distribution_eq_ok] at hdistribution
    rw [Distribution.microfacet?_eq_none_iff, ← Distribution.ofName?_eq_sharp_iff, hdistribution,
      Option.some.injEq]
  -- The modes read the roughness in different ways, and all of them read the color last.
  have hmode : ∀ distribution, node.distribution = .ok distribution →
      ∀ color, node.input? "Color" = some color →
      ((graph.glossy mode node).Succeeds ↔
        graph.GlossyRoughness node mode ∧ (graph.color color).Succeeds) := by
    intro distribution hdistribution color hcolor
    unfold glossy
    simp only [liftM_except, succeeds_ofExcept_bind, ShadingNode.getInput_eq_ok, hdistribution,
      hcolor, Except.ok.injEq, Option.some.injEq, exists_eq_left']
    cases mode with
    | roughConductor =>
      rw [glossyConductor_succeeds hlinks hnode, hsharp distribution hdistribution, GlossyRoughness]
    | metal =>
      rw [glossyMetal_succeeds hlinks hnode, hsharp distribution hdistribution, GlossyRoughness]
    | blinnPhong => exact glossyExponent_succeeds
    | phong => exact glossyExponent_succeeds
  rw [← ShadingNode.exists_distribution_iff]
  constructor
  · intro h
    have hread := h
    unfold glossy at hread
    simp only [liftM_except, succeeds_ofExcept_bind, ShadingNode.getInput_eq_ok] at hread
    obtain ⟨distribution, hdistribution, color, hcolor, -⟩ := hread
    obtain ⟨hroughness, hsucceeds⟩ := (hmode distribution hdistribution color hcolor).mp h
    exact ⟨⟨distribution, hdistribution⟩,
      ⟨color, hcolor, (color_succeeds hlinks hnode hcolor).mp hsucceeds⟩, hroughness⟩
  · rintro ⟨⟨distribution, hdistribution⟩, ⟨color, hcolor, hgives⟩, hroughness⟩
    exact (hmode distribution hdistribution color hcolor).mpr
      ⟨hroughness, (color_succeeds hlinks hnode hcolor).mpr hgives⟩

theorem glass_succeeds :
    (graph.glass node).Succeeds ↔
      node.HasIor ∧ graph.NumberInput node "Roughness" ∧ node.HasDistribution ∧
        graph.OptionalColorInput node "Color" := by
  refine (succeeds_bind_of_forall fun ior => succeeds_bind_of_forall fun roughness =>
    succeeds_bind_of_forall fun distribution =>
      succeeds_bind_of_succeeds fun transmittance => ?_).trans ?_
  · -- Which refracting surface it is decides nothing.
    split
    · exact succeeds_pure _
    · split <;> exact succeeds_pure _
  · rw [ShadingNode.refractionIndex_succeeds, roughness_succeeds hlinks hnode, liftM_except,
      succeeds_ofExcept, ShadingNode.exists_distribution_iff, optionalColor_succeeds hlinks hnode]

omit hlinks hnode in
theorem emission_succeeds :
    node.emission.Succeeds ↔ node.LiteralNumber "Strength" ∧ node.LiteralColor "Color" := by
  unfold ShadingNode.emission
  simp only [liftM_except, succeeds_ofExcept_bind, ShadingNode.getInput_eq_ok, succeeds_ite_fail,
    Socket.isLinked_iff, not_not]
  constructor
  · rintro ⟨strength, hstrength, hlink, color, hcolor, hlink', base, hbase, factor, hfactor, -⟩
    exact ⟨⟨strength, hstrength, hlink, factor, Socket.getNumber_eq_ok.mp hfactor⟩,
      ⟨color, hcolor, hlink', Socket.exists_getColor_iff.mp ⟨base, hbase⟩⟩⟩
  · rintro ⟨⟨strength, hstrength, hlink, factor, hfactor⟩, ⟨color, hcolor, hlink', hholds⟩⟩
    obtain ⟨base, hbase⟩ := Socket.exists_getColor_iff.mpr hholds
    refine ⟨strength, hstrength, hlink, color, hcolor, hlink', base, hbase, factor,
      Socket.getNumber_eq_ok.mpr hfactor, ?_⟩
    -- A dark emitter is replaced, not refused.
    split
    · exact succeeds_report_bind.mpr (succeeds_pure _)
    · exact succeeds_pure _

/-- A mixture needs both of its sides and an amount. -/
theorem blend_succeeds {side : ShadingNode → Translation (MaterialRecord Image)} :
    (graph.blend side node).Succeeds ↔
      ∃ first second, graph.feeding? node "Shader" = some first ∧
        graph.feeding? node "Shader_001" = some second ∧ graph.NumberInput node "Fac" ∧
          (side first).Succeeds ∧ (side second).Succeeds := by
  unfold blend
  cases hfirst : graph.feeding? node "Shader" with
  | none => simp
  | some first =>
    cases hsecond : graph.feeding? node "Shader_001" with
    | none => simp
    | some second =>
      simp only [liftM_except, succeeds_ofExcept_bind, ShadingNode.getInput_eq_ok,
        Option.some.injEq, exists_and_left, exists_eq_left']
      -- Once there are two sides, each of the three parts fails on its own.
      have hsides : ∀ fac, (graph.scalar fac >>= fun amount => side first >>= fun firstRecord =>
          side second >>= fun secondRecord => pure (.blend amount firstRecord secondRecord) :
            Translation (Material Image (MaterialRecord Image))).Succeeds ↔
          (graph.scalar fac).Succeeds ∧ (side first).Succeeds ∧ (side second).Succeeds := fun fac =>
        succeeds_bind_of_forall fun amount => succeeds_bind_of_forall fun firstRecord => by
          rw [bind_pure_comp, succeeds_map]
      constructor
      · rintro ⟨fac, hfac, h⟩
        obtain ⟨hscalar, hsucceeds⟩ := (hsides fac).mp h
        exact ⟨⟨fac, hfac, (scalar_succeeds hlinks hnode hfac).mp hscalar⟩, hsucceeds⟩
      · rintro ⟨⟨fac, hfac, hgives⟩, hsucceeds⟩
        exact ⟨fac, hfac,
          (hsides fac).mpr ⟨(scalar_succeeds hlinks hnode hfac).mpr hgives, hsucceeds⟩⟩

omit hlinks hnode in
/-- A normal map needs a literal strength; any other source has none. -/
theorem normalStrength_succeeds {normal : Socket} :
    (graph.normalStrength normal).Succeeds ↔
      ∀ source, graph.upstream? normal = some source → source.kind = .normalMap →
        source.LiteralNumber "Strength" := by
  unfold normalStrength
  cases hsource : graph.upstream? normal with
  | none => simp
  | some source =>
    by_cases hkind : source.kind = .normalMap
    · simp only [hkind, if_true, liftM_except, succeeds_ofExcept_bind, ShadingNode.getInput_eq_ok,
        succeeds_ite_fail, Socket.isLinked_iff, not_not, bind_pure_comp, succeeds_map,
        succeeds_ofExcept, Socket.exists_getNumber_iff, Option.some.injEq, forall_eq', true_imp_iff]
      rfl
    · simp [hkind]

/-- Only a linked normal input can make the perturbation of a record fail. -/
theorem perturbed_succeeds {record : MaterialRecord Image} :
    (graph.perturbed node record).Succeeds ↔ graph.NormalSupported node := by
  unfold perturbed NormalSupported
  cases hnormal : node.input? "Normal" with
  | none => simp
  | some normal =>
    by_cases hlink : normal.link = none
    · simp [Socket.isLinked, hlink]
    · have hwith : (graph.withNormals record normal).Succeeds ↔
          (graph.color normal).Succeeds ∧ (graph.normalStrength normal).Succeeds :=
        succeeds_bind_of_forall fun normals => by rw [bind_pure_comp, succeeds_map]
      rw [color_succeeds hlinks hnode hnormal, normalStrength_succeeds] at hwith
      simp only [Socket.isLinked_iff.mpr hlink, if_true, hwith, Option.some.injEq, forall_eq',
        hlink, not_false_eq_true, true_imp_iff, ne_eq]

/-- The normals of a node and its material fail independently: a node translates if its normals are
supported and its kind gives a material. -/
theorem surfaceStep_succeeds {side : ShadingNode → Translation (MaterialRecord Image)}
    {name : Option String} :
    (graph.surfaceStep mode side node name).Succeeds ↔
      graph.NormalSupported node ∧ (graph.material mode side node).Succeeds := by
  rw [surfaceStep, succeeds_emit_bind, and_comm]
  exact succeeds_bind_of_forall fun material => perturbed_succeeds hlinks hnode

/-! ## The grammar is exact -/

/-- A node that translates is supported, if the sides of a mixture that translate are. -/
theorem supported_of_surfaceStep_succeeds
    {side : ShadingNode → Translation (MaterialRecord Image)} {name : Option String}
    (hside : ∀ child, graph.Mixes node child → (side child).Succeeds → graph.Supported mode child)
    (h : (graph.surfaceStep mode side node name).Succeeds) : graph.Supported mode node := by
  obtain ⟨hnormal, hmaterial⟩ := (surfaceStep_succeeds hlinks hnode).mp h
  unfold material at hmaterial
  split at hmaterial
  · next hkind => exact .diffuse hkind ((diffuse_succeeds hlinks hnode).mp hmaterial) hnormal
  · next hkind =>
    obtain ⟨hdistribution, hcolor, hroughness⟩ := (glossy_succeeds hlinks hnode).mp hmaterial
    exact .glossy hkind hdistribution hcolor hroughness hnormal
  · next hkind =>
    obtain ⟨hior, hroughness, hdistribution, hcolor⟩ :=
      (glass_succeeds hlinks hnode).mp hmaterial
    exact .glass hkind hior hroughness hdistribution hcolor hnormal
  · next hkind =>
    obtain ⟨hstrength, hcolor⟩ := emission_succeeds.mp hmaterial
    exact .emission hkind hstrength hcolor hnormal
  · next hkind =>
    obtain ⟨first, second, hfirst, hsecond, hfac, hleft, hright⟩ :=
      (blend_succeeds hlinks hnode).mp hmaterial
    exact .mix hkind hfirst hsecond hfac (hside first ⟨hkind, .inl hfirst⟩ hleft)
      (hside second ⟨hkind, .inr hsecond⟩ hright) hnormal
  · exact absurd hmaterial (not_succeeds_fail _)

/-- A supported node translates, if the supported sides of a mixture do. -/
theorem surfaceStep_succeeds_of_supported
    {side : ShadingNode → Translation (MaterialRecord Image)} {name : Option String}
    (hside : ∀ child, graph.Mixes node child → graph.Supported mode child → (side child).Succeeds)
    (h : graph.Supported mode node) : (graph.surfaceStep mode side node name).Succeeds := by
  rw [surfaceStep_succeeds hlinks hnode]
  unfold material
  cases h with
  | diffuse hkind hcolor hnormal =>
    rw [hkind]
    exact ⟨hnormal, (diffuse_succeeds hlinks hnode).mpr hcolor⟩
  | glossy hkind hdistribution hcolor hroughness hnormal =>
    rw [hkind]
    exact ⟨hnormal, (glossy_succeeds hlinks hnode).mpr ⟨hdistribution, hcolor, hroughness⟩⟩
  | glass hkind hior hroughness hdistribution hcolor hnormal =>
    rw [hkind]
    exact ⟨hnormal, (glass_succeeds hlinks hnode).mpr ⟨hior, hroughness, hdistribution, hcolor⟩⟩
  | emission hkind hstrength hcolor hnormal =>
    rw [hkind]
    exact ⟨hnormal, emission_succeeds.mpr ⟨hstrength, hcolor⟩⟩
  | mix hkind hfirst hsecond hfac hleft hright hnormal =>
    rw [hkind]
    exact ⟨hnormal, (blend_succeeds hlinks hnode).mpr ⟨_, _, hfirst, hsecond, hfac,
      hside _ ⟨hkind, .inl hfirst⟩ hleft, hside _ ⟨hkind, .inr hsecond⟩ hright⟩⟩

end Surfaces

/-- Without cycles of mixtures, exactly the supported nodes translate. -/
theorem succeeds_surface_iff (hlinks : graph.LinksResolve) (hacyclic : graph.MixAcyclic)
    (hnode : node ∈ graph.nodes) :
    ∀ name, (graph.surface mode node name).Succeeds ↔ graph.Supported mode node := by
  -- The name has to vary: the sides of a mixture are translated without one.
  refine hacyclic.induction (motive := fun node =>
    ∀ name, (graph.surface mode node name).Succeeds ↔ graph.Supported mode node) ?_ node hnode
  intro node hnode ih name
  rw [surface_eq_surfaceStep hacyclic hnode]
  constructor
  · exact supported_of_surfaceStep_succeeds hlinks hnode fun child hchild =>
      (ih child hchild none).mp
  · exact surfaceStep_succeeds_of_supported hlinks hnode fun child hchild =>
      (ih child hchild none).mpr

/-- **Translation accepts exactly the grammar**: in every session and under every name, a node of a
graph made of a tree, where no mixture contains itself, translates to a record if and only if it is
supported in the glossy mode of the session. -/
theorem surface_succeeds_iff_supported {tree : NodeTree} (hgraph : Graph.ofTree tree = .ok graph)
    (hacyclic : graph.MixAcyclic) (hnode : node ∈ graph.nodes) (session : Session)
    (name : Option String) :
    (∃ record, (session.surface graph node name).1 = .ok record) ↔
      graph.Supported session.settings.glossyMode node := by
  rw [← succeeds_surface_iff (linksResolve_of_ofTree hgraph) hacyclic hnode name]
  -- Putting paths in place of images neither makes nor loses a record.
  unfold Session.surface Session.run Translation.Succeeds
  cases houtcome : (graph.surface session.settings.glossyMode node name).outcome with
  | error error => simp [Except.map]
  | ok skeleton => simp [Except.map]

end Graph

/-- A diffuse and a glossy surface in equal parts; a normal map perturbs the glossy one. -/
def NodeTree.varnishedWood : NodeTree where
  nodes := [
    { id := "mix", idname := "ShaderNodeMixShader", inputs := .ofList [("Fac", .scalar 0.5)] },
    { id := "wood", idname := "ShaderNodeBsdfDiffuse" },
    { id := "varnish", idname := "ShaderNodeBsdfGlossy",
      inputs := .ofList [("Color", .scalar 0.9), ("Roughness", .scalar 0.1)] },
    { id := "bumps", idname := "ShaderNodeNormalMap", inputs := .ofList [("Strength", .scalar 1)] },
    { id := "grain", idname := "ShaderNodeTexImage", image := some { name := "grain.png" } }]
  connections := [
    { source := ⟨"wood", "BSDF"⟩, target := ⟨"mix", "Shader"⟩ },
    { source := ⟨"varnish", "BSDF"⟩, target := ⟨"mix", "Shader_001"⟩ },
    { source := ⟨"bumps", "Normal"⟩, target := ⟨"varnish", "Normal"⟩ },
    { source := ⟨"grain", "Color"⟩, target := ⟨"bumps", "Color"⟩ }]

namespace Graph

/-- Some mixture translates: a diffuse and a glossy surface, the latter with a normal map. -/
theorem surface_succeeds_varnishedWood :
    Graph.ofTree .varnishedWood = .ok NodeTree.varnishedWood.graph ∧
      NodeTree.varnishedWood.graph.MixAcyclic ∧
      ∃ node ∈ NodeTree.varnishedWood.graph.nodes, node.kind = .mix ∧
        ∃ record, ((Session.start {}).surface NodeTree.varnishedWood.graph node none).1 =
          .ok record := by
  have hgraph : Graph.ofTree .varnishedWood = .ok NodeTree.varnishedWood.graph := rfl
  have hacyclic : NodeTree.varnishedWood.graph.MixAcyclic := by
    refine mixAcyclic_of_rank (fun node => if node.kind = .mix then 1 else 0) ?_
    have hsides : ∀ node ∈ NodeTree.varnishedWood.graph.nodes, ∀ name ∈ ["Shader", "Shader_001"],
        ∀ side ∈ NodeTree.varnishedWood.graph.feeding? node name, side.kind ≠ .mix := by
      decide +kernel
    rintro node hnode side ⟨hkind, hside | hside⟩
    · rw [if_pos hkind, if_neg (hsides node hnode "Shader" (by decide) side hside)]
      exact one_pos
    · rw [if_pos hkind, if_neg (hsides node hnode "Shader_001" (by decide) side hside)]
      exact one_pos
  refine ⟨hgraph, hacyclic, _, List.mem_cons_self, rfl, ?_⟩
  refine (surface_succeeds_iff_supported hgraph hacyclic List.mem_cons_self _ _).mpr ?_
  refine .mix rfl rfl rfl ⟨_, rfl, .literal rfl ⟨_, rfl⟩⟩ ?_ ?_ ?_
  · exact .diffuse rfl (fun _ h => nomatch h) (fun _ h => nomatch h)
  · refine .glossy rfl (ShadingNode.exists_distribution_iff.mp ⟨_, rfl⟩)
      ⟨_, rfl, .literal rfl ⟨_, rfl, fun _ h => nomatch h⟩⟩
      (.inr ⟨_, rfl, .literal rfl ⟨_, rfl⟩⟩) ?_
    intro normal hnormal _
    cases hnormal
    refine ⟨.normalMap rfl rfl ⟨rfl, _, rfl, _, rfl, rfl, rfl⟩, ?_⟩
    intro source hsource _
    cases hsource
    exact ⟨_, rfl, rfl, _, rfl⟩
  · exact fun _ h => nomatch h

end Graph

end ShadingExport
