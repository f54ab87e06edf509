import ShadingExport.Proofs.Surface.MixTree

/-!
# Surfaces write what their sockets hold

Every number and color in the record of a surface is read off one socket of one node, and
`Graph.Writes` says which, kind by kind. What is stored at a socket is written as it is, with one
exception: the literal at the roughness of a glossy or glass node is squared, and made into an
exponent in the modes that have one. What is linked is never remapped. Each reader is looked at once
(`Graph.scalar_reads`, `Graph.color_reads`) and each kind of surface once
(`Graph.material_writes`). A record is put together from what its nodes translate to on their own,
so all of it is written in this way (`Graph.surface_writes`), however often a node is shared.
-/

namespace ShadingExport

open Translation

/-! ## What is stored -/

namespace ShadingNode

/-- The node stores a number at an input, linked or not. -/
def Stores (node : ShadingNode) (name : String) (value : Float) : Prop :=
  ∃ socket, node.input? name = some socket ∧ socket.default = some (.scalar value)

/-- The node has an unlinked input with a literal. -/
def HasLiteral (node : ShadingNode) (name : String) (literal : Literal) : Prop :=
  ∃ socket, node.input? name = some socket ∧ socket.link = none ∧ socket.default = some literal

/-- The node gives the texture of its image, which is raw if the image holds data. -/
def GivesTexture (node : ShadingNode) (texture : ImageTexture Image) : Prop :=
  node.kind = .imageTexture ∧ node.image = some texture.file ∧
    texture.raw = dataColorspaces.contains texture.file.colorspace

end ShadingNode

/-! ## What is read from a socket -/

namespace Graph

/-- The number that is read from a socket: a literal is remapped, and nothing else is. -/
inductive ReadsNumber (graph : Graph) (remap : Float → Float) (socket : Socket) :
    VaryingScalar Image → Prop where
  /-- A literal at an unlinked socket. -/
  | literal {value : Float} (hlink : socket.link = none)
      (hvalue : socket.default = some (.scalar value)) :
      ReadsNumber graph remap socket (.constant (remap value))
  /-- The texture that feeds the socket. -/
  | texture {source : ShadingNode} {texture : ImageTexture Image}
      (hsource : graph.upstream? socket = some source) (htexture : source.GivesTexture texture) :
      ReadsNumber graph remap socket (.texture texture)
  /-- The Fresnel factor that feeds the socket, at the index of refraction that is stored there. -/
  | fresnel {source : ShadingNode} {ior : Float} (hsource : graph.upstream? socket = some source)
      (hkind : source.kind = .fresnel) (hior : source.Stores "IOR" ior) :
      ReadsNumber graph remap socket (.fresnel ior)

/-- The color that is read from a socket. -/
inductive ReadsColor (graph : Graph) (socket : Socket) : VaryingColor Image → Prop where
  /-- A literal at an unlinked socket. -/
  | literal {literal : Literal} {color : Color} (hlink : socket.link = none)
      (hliteral : socket.default = some literal) (hcolor : literal.color? = some color) :
      ReadsColor graph socket (.constant color)
  /-- The constant color that feeds the socket. -/
  | constant {source : ShadingNode} {literal : Literal} {color : Color}
      (hsource : graph.upstream? socket = some source) (hkind : source.kind = .rgb)
      (hliteral : source.attributeLiteral? "color" = some literal)
      (hcolor : literal.color? = some color) : ReadsColor graph socket (.constant color)
  /-- The texture that feeds the socket. -/
  | texture {source : ShadingNode} {texture : ImageTexture Image}
      (hsource : graph.upstream? socket = some source) (htexture : source.GivesTexture texture) :
      ReadsColor graph socket (.texture texture)
  /-- The texture of the normal map that feeds the socket. -/
  | normalMap {source sampler : ShadingNode} {texture : ImageTexture Image}
      (hsource : graph.upstream? socket = some source) (hkind : source.kind = .normalMap)
      (hsampler : graph.feeding? source "Color" = some sampler)
      (htexture : sampler.GivesTexture texture) : ReadsColor graph socket (.texture texture)

/-- The number that is read from an input. -/
def NumberAt (graph : Graph) (remap : Float → Float) (node : ShadingNode) (name : String)
    (value : VaryingScalar Image) : Prop :=
  ∃ socket, node.input? name = some socket ∧ graph.ReadsNumber remap socket value

/-- The color that is read from an input. -/
def ColorAt (graph : Graph) (node : ShadingNode) (name : String) (color : VaryingColor Image) :
    Prop :=
  ∃ socket, node.input? name = some socket ∧ graph.ReadsColor socket color

/-- The color that is read from an input, if the node has it. -/
def OptionalColorAt (graph : Graph) (node : ShadingNode) (name : String)
    (color : Option (VaryingColor Image)) : Prop :=
  Option.Rel graph.ReadsColor (node.input? name) color

/-! ## What is written for a node -/

/-- The material that is written for a node, in a glossy mode. -/
inductive Writes (graph : Graph) (mode : GlossyMode) (node : ShadingNode) :
    Material Image (MaterialRecord Image) → Prop where
  /-- A diffuse surface has its color. -/
  | diffuse {albedo : Option (VaryingColor Image)} (hkind : node.kind = .diffuse)
      (halbedo : graph.OptionalColorAt node "Color" albedo) :
      Writes graph mode node (.lambertian albedo)
  /-- A rough conductor has its color, and its roughness squared. -/
  | roughConductor {distribution : Distribution} {microfacet : Microfacet}
      {roughness : VaryingScalar Image} {color : VaryingColor Image} (hkind : node.kind = .glossy)
      (hmode : mode = .roughConductor) (hdistribution : node.distribution = .ok distribution)
      (hmicrofacet : distribution.microfacet? = some microfacet)
      (hroughness : graph.NumberAt (fun value => value * value) node "Roughness" roughness)
      (hcolor : graph.ColorAt node "Color" color) :
      Writes graph mode node (.roughConductor roughness microfacet color)
  /-- A smooth conductor has its color. -/
  | conductor {color : VaryingColor Image} (hkind : node.kind = .glossy)
      (hmode : mode = .roughConductor) (hsharp : node.distribution = .ok .sharp)
      (hcolor : graph.ColorAt node "Color" color) : Writes graph mode node (.conductor color)
  /-- A metal has its color, and its roughness squared. -/
  | metal {distribution : Distribution} {microfacet : Microfacet}
      {roughness : VaryingScalar Image} {albedo : VaryingColor Image} (hkind : node.kind = .glossy)
      (hmode : mode = .metal) (hdistribution : node.distribution = .ok distribution)
      (hmicrofacet : distribution.microfacet? = some microfacet)
      (hroughness : graph.NumberAt (fun value => value * value) node "Roughness" roughness)
      (halbedo : graph.ColorAt node "Color" albedo) :
      Writes graph mode node (.metal roughness albedo)
  /-- A sharp reflection is a metal without roughness. -/
  | sharpMetal {albedo : VaryingColor Image} (hkind : node.kind = .glossy)
      (hmode : mode ≠ .roughConductor) (hsharp : node.distribution = .ok .sharp)
      (halbedo : graph.ColorAt node "Color" albedo) :
      Writes graph mode node (.metal (.constant 0) albedo)
  /-- So is one whose exponent would be infinite. -/
  | mirror {value : Float} {albedo : VaryingColor Image} (hkind : node.kind = .glossy)
      (hmode : mode = .blinnPhong ∨ mode = .phong)
      (hroughness : node.HasLiteral "Roughness" (.scalar value))
      (hinfinite : (blinnExponent (value * value)).isFinite = false)
      (halbedo : graph.ColorAt node "Color" albedo) :
      Writes graph mode node (.metal (.constant 0) albedo)
  /-- A Blinn-Phong exponent is that of the square of the roughness. -/
  | blinnPhong {value : Float} {distribution : Distribution} {microfacet : Microfacet}
      {albedo : VaryingColor Image} (hkind : node.kind = .glossy) (hmode : mode = .blinnPhong)
      (hdistribution : node.distribution = .ok distribution)
      (hmicrofacet : distribution.microfacet? = some microfacet)
      (hroughness : node.HasLiteral "Roughness" (.scalar value))
      (halbedo : graph.ColorAt node "Color" albedo) :
      Writes graph mode node (.blinnPhong (blinnExponent (value * value)) microfacet albedo)
  /-- A Phong exponent is a quarter of that. -/
  | phong {value : Float} {distribution : Distribution} {microfacet : Microfacet}
      {albedo : VaryingColor Image} (hkind : node.kind = .glossy) (hmode : mode = .phong)
      (hdistribution : node.distribution = .ok distribution)
      (hmicrofacet : distribution.microfacet? = some microfacet)
      (hroughness : node.HasLiteral "Roughness" (.scalar value))
      (halbedo : graph.ColorAt node "Color" albedo) :
      Writes graph mode node (.phong (blinnExponent (value * value) / 4) microfacet albedo)
  /-- Rough glass has its index of refraction and its color, and its roughness squared. -/
  | roughDielectric {distribution : Distribution} {microfacet : Microfacet}
      {roughness : VaryingScalar Image} {ior : Float} {transmittance : Option (VaryingColor Image)}
      (hkind : node.kind = .glass) (hdistribution : node.distribution = .ok distribution)
      (hmicrofacet : distribution.microfacet? = some microfacet)
      (hroughness : graph.NumberAt (fun value => value * value) node "Roughness" roughness)
      (hior : node.Stores "IOR" ior)
      (htransmittance : graph.OptionalColorAt node "Color" transmittance) :
      Writes graph mode node (.roughDielectric roughness microfacet ior transmittance)
  /-- A sheet of glass has its index of refraction and its color. -/
  | thinDielectric {ior : Float} {transmittance : Option (VaryingColor Image)}
      (hkind : node.kind = .glass) (hior : node.Stores "IOR" ior)
      (htransmittance : graph.OptionalColorAt node "Color" transmittance) :
      Writes graph mode node (.thinDielectric ior transmittance)
  /-- Smooth glass has its index of refraction and its color. -/
  | dielectric {ior : Float} {transmittance : Option (VaryingColor Image)}
      (hkind : node.kind = .glass) (hior : node.Stores "IOR" ior)
      (htransmittance : graph.OptionalColorAt node "Color" transmittance) :
      Writes graph mode node (.dielectric ior transmittance)
  /-- A light has its color, as strong as it is. -/
  | light {literal : Literal} {color : Color} {strength : Float} (hkind : node.kind = .emission)
      (hliteral : node.HasLiteral "Color" literal) (hcolor : literal.color? = some color)
      (hstrength : node.HasLiteral "Strength" (.scalar strength))
      (hlit : ¬(color.scale strength).sum == 0) :
      Writes graph mode node (.diffuseLight (color.scale strength))
  /-- A light that emits nothing is black. -/
  | dark {literal : Literal} {color : Color} {strength : Float} (hkind : node.kind = .emission)
      (hliteral : node.HasLiteral "Color" literal) (hcolor : literal.color? = some color)
      (hstrength : node.HasLiteral "Strength" (.scalar strength))
      (hdark : (color.scale strength).sum == 0) :
      Writes graph mode node (.lambertian (some (.constant (.grey 0))))
  /-- A mixture has its amount, which is not remapped. -/
  | blend {amount : VaryingScalar Image} {first second : MaterialRecord Image}
      (hkind : node.kind = .mix) (hamount : graph.NumberAt id node "Fac" amount) :
      Writes graph mode node (.blend amount first second)

/-- What perturbs the normals of the record of a node, from the outside in. -/
inductive WritesNormals (graph : Graph) (node : ShadingNode) :
    List (VaryingColor Image × Option Float) → Prop where
  /-- Nothing, without a linked normal input. -/
  | plain (hnormal : node.linkedNormal? = none) : WritesNormals graph node []
  /-- A normal map, with its strength. -/
  | mapped {normal : Socket} {source : ShadingNode} {normals : VaryingColor Image}
      {strength : Float} (hnormal : node.linkedNormal? = some normal)
      (hsource : graph.upstream? normal = some source) (hkind : source.kind = .normalMap)
      (hnormals : graph.ReadsColor normal normals)
      (hstrength : source.HasLiteral "Strength" (.scalar strength)) :
      WritesNormals graph node [(normals, some strength)]
  /-- Something else that gives a color, without a strength. -/
  | direct {normal : Socket} {source : ShadingNode} {normals : VaryingColor Image}
      (hnormal : node.linkedNormal? = some normal) (hsource : graph.upstream? normal = some source)
      (hkind : source.kind ≠ .normalMap) (hnormals : graph.ReadsColor normal normals) :
      WritesNormals graph node [(normals, none)]

/-- A record writes what the sockets of its node hold. -/
structure WritesSockets (graph : Graph) (mode : GlossyMode) (node : ShadingNode)
    (record : MaterialRecord Image) : Prop where
  /-- The material is written for the node. -/
  core : graph.Writes mode node record.core
  /-- So is what perturbs its normals. -/
  wrappers : graph.WritesNormals node record.wrappers

/-- No normal map is written as the material of a node. -/
theorem Writes.isNormalMap {graph : Graph} {mode : GlossyMode} {node : ShadingNode}
    {material : Material Image (MaterialRecord Image)} (h : graph.Writes mode node material) :
    material.isNormalMap = false := by
  cases h <;> rfl

end Graph

/-! ## Readers -/

/-- What is stored at an input that is found unlinked is a literal of the node. -/
theorem ShadingNode.hasLiteral_of_getInput {node : ShadingNode} {name : String} {socket : Socket}
    {literal : Literal} (hsocket : node.getInput name = .ok socket) (hlinked : ¬socket.isLinked)
    (hliteral : socket.default = some literal) : node.HasLiteral name literal :=
  ⟨socket, getInput_eq_ok.mp hsocket, by simpa [Socket.isLinked] using hlinked, hliteral⟩

theorem ShadingNode.texture_gives (node : ShadingNode) (hkind : node.kind = .imageTexture) :
    node.texture.Ensures fun _ texture => node.GivesTexture texture := by
  unfold texture
  simp only [liftM_except, ensures_bind, ensures_ofExcept, ensures_emit]
  intro image himage
  have hgives : node.GivesTexture ⟨image, dataColorspaces.contains image.colorspace⟩ :=
    ⟨hkind, getImage_eq_ok.mp himage, rfl⟩
  refine ensures_ite ?_ ?_
  · rw [ensures_bind, ensures_report, ensures_pure]
    exact hgives
  · rw [ensures_pure]
    exact hgives

theorem ShadingNode.refractionIndex_stores (node : ShadingNode) :
    node.refractionIndex.Ensures fun _ ior => node.Stores "IOR" ior := by
  unfold refractionIndex
  simp only [liftM_except, ensures_bind, ensures_ofExcept]
  intro socket hsocket
  have hstores : ∀ ior, socket.getNumber = .ok ior → node.Stores "IOR" ior :=
    fun ior hior => ⟨socket, getInput_eq_ok.mp hsocket, Socket.getNumber_eq_ok.mp hior⟩
  refine ensures_ite ?_ ?_
  · rw [ensures_bind, ensures_report, ensures_ofExcept]
    exact hstores
  · rw [ensures_ofExcept]
    exact hstores

namespace Graph

variable {graph : Graph} {mode : GlossyMode} {node : ShadingNode}

/-- The texture of a normal map is that of the node which feeds it. -/
theorem tangentNormals_reads (graph : Graph) (node : ShadingNode) :
    (graph.tangentNormals node).Ensures fun _ normals =>
      ∃ sampler texture, graph.feeding? node "Color" = some sampler ∧
        sampler.GivesTexture texture ∧ normals = .texture texture := by
  unfold tangentNormals
  refine ensures_ite ensures_fail ?_
  simp only [bind_pure_comp, liftM_except, ensures_bind, ensures_ofExcept]
  intro socket hsocket
  split
  · exact ensures_fail
  · next sampler hsampler =>
    split
    · next hkind =>
      rw [ensures_map]
      refine (sampler.texture_gives hkind).mono fun _ texture htexture => ?_
      have hfeeding := feeding?_of_upstream? (ShadingNode.getInput_eq_ok.mp hsocket) hsampler
      exact ⟨sampler, texture, hfeeding, htexture, rfl⟩
    · exact ensures_fail

section Inputs

variable (hlinks : graph.LinksResolve) (hnode : node ∈ graph.nodes) {name : String}
  {socket : Socket} (hsocket : node.input? name = some socket)

include hlinks hnode hsocket

/-- **A number is remapped at most once**, and only the literal of a roughness. -/
theorem scalar_reads {remap : Float → Float} (hremap : ∀ value,
      remap value = if name = roughnessName then microfacetRoughness value else value) :
    (graph.scalar socket).Ensures fun _ value => graph.ReadsNumber remap socket value := by
  unfold scalar
  simp only [bind_pure_comp, liftM_except]
  split
  · next hsource =>
    rw [ensures_map, ensures_ofExcept]
    intro value hvalue
    have hlink := (upstream?_eq_none_iff hlinks hnode hsocket).mp hsource
    rw [ShadingNode.name_of_input? hsocket, ← hremap]
    exact .literal hlink (Socket.getNumber_eq_ok.mp hvalue)
  · next source hsource =>
    split
    · next hkind =>
      rw [ensures_map]
      exact (source.texture_gives hkind).mono fun _ texture htexture => .texture hsource htexture
    · next hkind =>
      rw [ensures_map]
      exact source.refractionIndex_stores.mono fun _ ior hior => .fresnel hsource hkind hior
    · exact ensures_fail

theorem color_reads :
    (graph.color socket).Ensures fun _ color => graph.ReadsColor socket color := by
  unfold color
  simp only [bind_pure_comp, liftM_except]
  split
  · next hsource =>
    rw [ensures_map, ensures_ofExcept]
    intro color hcolor
    have hlink := (upstream?_eq_none_iff hlinks hnode hsocket).mp hsource
    obtain ⟨literal, hliteral, hcolor⟩ := Socket.getColor_eq_ok.mp hcolor
    exact .literal hlink hliteral hcolor
  · next source hsource =>
    split
    · next hkind =>
      rw [ensures_map]
      exact (source.texture_gives hkind).mono fun _ texture htexture => .texture hsource htexture
    · next hkind =>
      refine (graph.tangentNormals_reads source).mono fun _ normals hnormals => ?_
      obtain ⟨sampler, texture, hsampler, htexture, rfl⟩ := hnormals
      exact .normalMap hsource hkind hsampler htexture
    · next hkind =>
      rw [ensures_map, ensures_ofExcept]
      intro color hcolor
      obtain ⟨literal, hliteral, hcolor⟩ := ShadingNode.constantColor_eq_ok.mp hcolor
      exact .constant hsource hkind hliteral hcolor
    · exact ensures_fail

end Inputs

/-! ## Surfaces -/

section Surfaces

variable (hlinks : graph.LinksResolve) (hnode : node ∈ graph.nodes)

include hlinks hnode

theorem optionalColor_reads (name : String) :
    (graph.optionalColor node name).Ensures fun _ color =>
      graph.OptionalColorAt node name color := by
  unfold optionalColor OptionalColorAt
  split
  · next hsocket =>
    rw [ensures_pure, hsocket]
    exact .none
  · next socket hsocket =>
    rw [bind_pure_comp, ensures_map, hsocket]
    exact (color_reads hlinks hnode hsocket).mono fun _ color hcolor => .some hcolor

theorem roughness_reads :
    (graph.roughness node).Ensures fun _ roughness =>
      graph.NumberAt (fun value => value * value) node "Roughness" roughness := by
  unfold roughness
  simp only [liftM_except, ensures_bind, ensures_ofExcept]
  intro socket hsocket
  rw [ShadingNode.getInput_eq_ok] at hsocket
  refine (scalar_reads hlinks hnode hsocket fun value => ?_).mono fun _ roughness hroughness =>
    ⟨socket, hsocket, hroughness⟩
  rw [if_pos rfl, microfacetRoughness]

theorem diffuse_writes (hkind : node.kind = .diffuse) :
    (graph.diffuse node).Ensures fun _ material => graph.Writes mode node material := by
  have hcolor : ((fun albedo => Material.lambertian albedo) <$>
      graph.optionalColor node "Color").Ensures fun _ material =>
        graph.Writes mode node material := by
    rw [ensures_map]
    exact (optionalColor_reads hlinks hnode "Color").mono fun _ albedo halbedo =>
      .diffuse hkind halbedo
  unfold diffuse
  simp only [bind_pure_comp]
  refine ensures_ite ?_ hcolor
  rw [ensures_bind, ensures_report]
  exact hcolor

section Glossy

variable (hkind : node.kind = .glossy) {distribution : Distribution}
  (hdistribution : node.distribution = .ok distribution) {color : Socket}
  (hcolor : node.input? "Color" = some color)

include hcolor

/-- The color of a glossy node, which is read last. -/
theorem colorAt_color :
    (graph.color color).Ensures fun _ albedo => graph.ColorAt node "Color" albedo :=
  (color_reads hlinks hnode hcolor).mono fun _ _ halbedo => ⟨color, hcolor, halbedo⟩

include hkind hdistribution

theorem glossyConductor_writes :
    (graph.glossyConductor node color distribution.microfacet?).Ensures fun _ material =>
      graph.Writes .roughConductor node material := by
  have halbedo := colorAt_color hlinks hnode hcolor
  unfold glossyConductor
  simp only [bind_pure_comp]
  cases hmicrofacet : distribution.microfacet? with
  | some microfacet =>
    dsimp only
    rw [ensures_bind]
    refine (roughness_reads hlinks hnode).mono fun _ roughness hroughness => ?_
    rw [ensures_map]
    exact halbedo.mono fun _ albedo halbedo =>
      .roughConductor hkind rfl hdistribution hmicrofacet hroughness halbedo
  | none =>
    dsimp only
    rw [ensures_map]
    obtain rfl := Distribution.microfacet?_eq_none_iff.mp hmicrofacet
    exact halbedo.mono fun _ albedo halbedo => .conductor hkind rfl hdistribution halbedo

theorem glossyMetal_writes :
    (graph.glossyMetal node color distribution.microfacet?).Ensures fun _ material =>
      graph.Writes .metal node material := by
  have halbedo := colorAt_color hlinks hnode hcolor
  unfold glossyMetal
  simp only [bind_pure_comp]
  cases hmicrofacet : distribution.microfacet? with
  | some microfacet =>
    dsimp only
    rw [ensures_bind]
    refine (roughness_reads hlinks hnode).mono fun _ roughness hroughness => ?_
    rw [ensures_map]
    exact halbedo.mono fun _ albedo halbedo =>
      .metal hkind rfl hdistribution hmicrofacet hroughness halbedo
  | none =>
    dsimp only
    rw [pure_bind, ensures_map]
    obtain rfl := Distribution.microfacet?_eq_none_iff.mp hmicrofacet
    exact halbedo.mono fun _ albedo halbedo =>
      .sharpMetal hkind (by decide) hdistribution halbedo

/-- A surface with an exponent has that of the square of its literal roughness. -/
theorem glossyExponent_writes
    {material : Float → Microfacet → VaryingColor Image → Material Image (MaterialRecord Image)}
    (hmode : mode = .blinnPhong ∨ mode = .phong)
    (hmaterial : ∀ value microfacet albedo, distribution.microfacet? = some microfacet →
      node.HasLiteral "Roughness" (.scalar value) → graph.ColorAt node "Color" albedo →
        graph.Writes mode node (material (blinnExponent (value * value)) microfacet albedo)) :
    (graph.glossyExponent node color distribution.microfacet? material).Ensures fun _ material =>
      graph.Writes mode node material := by
  unfold glossyExponent
  simp only [liftM_except, ensures_bind, ensures_ofExcept]
  intro socket hsocket
  split
  · exact ensures_fail
  · next hunlinked =>
    simp only [ensures_bind, ensures_ofExcept]
    intro value hvalue
    have hroughness : node.HasLiteral "Roughness" (.scalar value) :=
      ShadingNode.hasLiteral_of_getInput hsocket hunlinked (Socket.getNumber_eq_ok.mp hvalue)
    refine (colorAt_color hlinks hnode hcolor).mono fun _ albedo halbedo => ?_
    split
    · next microfacet hmicrofacet =>
      split
      · rw [ensures_pure]
        exact hmaterial value microfacet albedo hmicrofacet hroughness halbedo
      · next hinfinite =>
        rw [ensures_pure]
        exact .mirror hkind hmode hroughness (Bool.eq_false_iff.mpr hinfinite) halbedo
    · next hmicrofacet =>
      rw [ensures_pure]
      obtain rfl := Distribution.microfacet?_eq_none_iff.mp hmicrofacet
      have hconductor : mode ≠ .roughConductor := by
        rcases hmode with rfl | rfl
        · decide
        · decide
      exact .sharpMetal hkind hconductor hdistribution halbedo

end Glossy

theorem glossy_writes (hkind : node.kind = .glossy) (mode : GlossyMode) :
    (graph.glossy mode node).Ensures fun _ material => graph.Writes mode node material := by
  unfold glossy
  simp only [liftM_except, ensures_bind, ensures_ofExcept]
  intro distribution hdistribution color hcolor
  rw [ShadingNode.getInput_eq_ok] at hcolor
  cases mode with
  | roughConductor => exact glossyConductor_writes hlinks hnode hkind hdistribution hcolor
  | metal => exact glossyMetal_writes hlinks hnode hkind hdistribution hcolor
  | blinnPhong =>
    exact glossyExponent_writes hlinks hnode hkind hdistribution hcolor (.inl rfl)
      fun value microfacet albedo hmicrofacet hroughness halbedo =>
        .blinnPhong hkind rfl hdistribution hmicrofacet hroughness halbedo
  | phong =>
    exact glossyExponent_writes hlinks hnode hkind hdistribution hcolor (.inr rfl)
      fun value microfacet albedo hmicrofacet hroughness halbedo =>
        .phong hkind rfl hdistribution hmicrofacet hroughness halbedo

theorem glass_writes (hkind : node.kind = .glass) :
    (graph.glass node).Ensures fun _ material => graph.Writes mode node material := by
  unfold glass
  simp only [liftM_except, ensures_bind]
  refine node.refractionIndex_stores.mono fun _ ior hior => ?_
  refine (roughness_reads hlinks hnode).mono fun _ roughness hroughness => ?_
  rw [ensures_ofExcept]
  intro distribution hdistribution
  refine (optionalColor_reads hlinks hnode "Color").mono fun _ transmittance htransmittance => ?_
  split
  · next microfacet hmicrofacet _ =>
    rw [ensures_pure]
    exact .roughDielectric hkind hdistribution hmicrofacet hroughness hior htransmittance
  · refine ensures_ite ?_ ?_
    · rw [ensures_pure]
      exact .thinDielectric hkind hior htransmittance
    · rw [ensures_pure]
      exact .dielectric hkind hior htransmittance

omit hlinks hnode in
theorem emission_writes (hkind : node.kind = .emission) :
    node.emission.Ensures fun _ material => graph.Writes mode node material := by
  unfold ShadingNode.emission
  simp only [liftM_except, ensures_bind, ensures_ofExcept]
  intro strength hstrength
  split
  · exact ensures_fail
  · next hstrengthUnlinked =>
    simp only [ensures_bind, ensures_ofExcept]
    intro color hcolor
    split
    · exact ensures_fail
    · next hcolorUnlinked =>
      simp only [ensures_bind, ensures_ofExcept]
      intro base hbase factor hfactor
      obtain ⟨literal, hliteral, hbase⟩ := Socket.getColor_eq_ok.mp hbase
      have hcolor : node.HasLiteral "Color" literal :=
        ShadingNode.hasLiteral_of_getInput hcolor hcolorUnlinked hliteral
      have hstrength : node.HasLiteral "Strength" (.scalar factor) :=
        ShadingNode.hasLiteral_of_getInput hstrength hstrengthUnlinked
          (Socket.getNumber_eq_ok.mp hfactor)
      split
      · next hdark =>
        rw [ensures_bind, ensures_report, ensures_pure]
        exact .dark hkind hcolor hbase hstrength hdark
      · next hlit =>
        rw [ensures_pure]
        exact .light hkind hcolor hbase hstrength hlit

theorem amount_reads :
    (graph.amount node).Ensures fun _ amount => graph.NumberAt id node "Fac" amount := by
  unfold amount
  simp only [liftM_except, ensures_bind, ensures_ofExcept]
  intro fac hfac
  rw [ShadingNode.getInput_eq_ok] at hfac
  refine (scalar_reads hlinks hnode hfac fun value => ?_).mono fun _ amount hamount =>
    ⟨fac, hfac, hamount⟩
  rw [if_neg (by decide), id]

/-- **Each kind of surface writes what the sockets of its node hold.** -/
theorem material_writes (side : ShadingNode → Translation (MaterialRecord Image)) :
    (graph.material mode side node).Ensures fun _ material => graph.Writes mode node material := by
  unfold material
  split
  · next hkind => exact diffuse_writes hlinks hnode hkind
  · next hkind => exact glossy_writes hlinks hnode hkind mode
  · next hkind => exact glass_writes hlinks hnode hkind
  · next hkind => exact emission_writes hkind
  · next hkind =>
    refine blend_parts.mono fun _ material hmaterial => ?_
    obtain ⟨first, second, amount, a, b, -, -, hamount, -, -, rfl, -⟩ := hmaterial
    exact .blend hkind (amount_reads hlinks hnode amount hamount)
  · exact ensures_fail

theorem perturbation_writes :
    (graph.perturbation node).Ensures fun _ perturbation =>
      graph.WritesNormals node perturbation.toList := by
  unfold perturbation
  split
  · next hnone =>
    rw [ensures_pure]
    exact .plain hnone
  · next normal hnormal =>
    obtain ⟨hinput, hlinked⟩ := Option.filter_eq_some_iff.mp hnormal
    simp only [ensures_bind]
    refine (color_reads hlinks hnode hinput).mono fun _ normals hnormals => ?_
    unfold normalStrength
    split
    · next hsource =>
      -- A linked socket of the graph is fed by a node.
      have hlink := (upstream?_eq_none_iff hlinks hnode hinput).mp hsource
      exact absurd hlink (Socket.isLinked_iff.mp hlinked)
    · next source hsource =>
      split
      · next hkind =>
        simp only [liftM_except, ensures_bind, ensures_ofExcept]
        intro socket hsocket
        split
        · exact ensures_fail
        · next hunlinked =>
          simp only [ensures_bind, ensures_ofExcept, ensures_pure]
          intro strength hstrength
          have hliteral : source.HasLiteral "Strength" (.scalar strength) :=
            ShadingNode.hasLiteral_of_getInput hsocket hunlinked
              (Socket.getNumber_eq_ok.mp hstrength)
          exact .mapped hnormal hsource hkind hnormals hliteral
      · next hkind =>
        simp only [ensures_pure]
        exact .direct hnormal hsource hkind hnormals

/-- A node writes what its sockets hold. -/
theorem surface_writesSockets (hacyclic : graph.MixAcyclic) :
    (graph.surface mode node none).Ensures fun _ record =>
      graph.WritesSockets mode node record := by
  intro record hrecord
  obtain ⟨body, perturbation, hbody, hperturbation, rfl, -⟩ :=
    surface_parts hacyclic hnode record hrecord
  have hwrites := material_writes hlinks hnode _ body hbody
  constructor
  · rw [MaterialRecord.core_perturbedBy perturbation hwrites.isNormalMap]
    exact hwrites
  · rw [MaterialRecord.wrappers_perturbedBy perturbation hwrites.isNormalMap]
    exact perturbation_writes hlinks hnode perturbation hperturbation

end Surfaces

/-! ## Trees of mixtures -/

/-- What holds of every node of the graph holds at every position of what a node unfolds to. -/
theorem Unfolds.matches_mono {related related' : ShadingNode → MaterialRecord Image → Prop}
    (himp : ∀ node ∈ graph.nodes, ∀ record, related node record → related' node record)
    {tree : MixTree ShadingNode} (hunfolds : graph.Unfolds node tree) (hnode : node ∈ graph.nodes)
    {records : MixTree (MaterialRecord Image)} (hmatches : tree.Matches related records) :
    tree.Matches related' records := by
  induction hunfolds generalizing records with
  | leaf _ =>
    cases hmatches with
    | leaf h => exact .leaf (himp _ hnode _ h)
  | mixture _ hfirst hsecond _ _ ihfirst ihsecond =>
    cases hmatches with
    | mixture h hleft hright =>
      exact .mixture (himp _ hnode _ h) (ihfirst (mem_nodes_of_feeding? hfirst) hleft)
        (ihsecond (mem_nodes_of_feeding? hsecond) hright)

/-- **A record writes what the sockets of its nodes hold**, at every position of the tree that its
node unfolds to. -/
theorem surface_writes (hlinks : graph.LinksResolve) (hacyclic : graph.MixAcyclic)
    (hnode : node ∈ graph.nodes) :
    (graph.surface mode node none).Ensures fun _ record =>
      ∃ tree, graph.Unfolds node tree ∧
        tree.Matches (graph.WritesSockets mode) record.mixtures := by
  refine (surface_mirrors hacyclic node hnode).mono fun _ record hmirrors => ?_
  obtain ⟨tree, hunfolds, hmatches, -⟩ := hmirrors
  -- Every part of the record is what its node translates to on its own.
  refine ⟨tree, hunfolds, hunfolds.matches_mono (fun other hother part hpart => ?_) hnode hmatches⟩
  exact surface_writesSockets hlinks hother hacyclic part hpart.alone

end Graph

/-! ## Sessions -/

namespace Session

variable {session : Session} {graph : Graph} {node : ShadingNode} {name : Option String}
  {record : MaterialRecord String}

/-- The record of a node is rendered from what the node translates to without a name. -/
theorem surface_renders_unnamed (h : (session.surface graph node name).1 = .ok record) :
    ∃ skeleton, (graph.surface session.settings.glossyMode node none).outcome = .ok skeleton ∧
      (session.surface graph node name).2.textures.Renders { skeleton with name } record := by
  obtain ⟨named, hnamed, rfl⟩ := surface_eq_ok_iff.mp h
  have hfiles := (graph.surface_ensures session.settings.glossyMode node name named hnamed).2
  have hrendered := session.renders_perform hfiles
  cases hskeleton : (graph.surface session.settings.glossyMode node none).outcome with
  | error error =>
    rw [Graph.surface_eq_map name, outcome_map, hskeleton] at hnamed
    cases hnamed
  | ok skeleton =>
    rw [Graph.surface_eq_map name, outcome_map, hskeleton] at hnamed
    obtain rfl := Except.ok.inj hnamed
    exact ⟨skeleton, rfl, hrendered⟩

/-- **Literals are written as they are stored, and a roughness is squared once**: in the graph of a
tree whose mixtures do not contain themselves, if a node translates, then its record is the tree
that the node unfolds to, and at every position of it the material and what perturbs its normals are
written from the sockets of the node that stands there. A constant roughness is the square of the
literal at the roughness of that very node, an exponent is made of that square, and a roughness that
is linked, an amount, an index of refraction, a strength and a color are what the sockets hold. -/
theorem surface_writes_sockets {tree : NodeTree} (hgraph : Graph.ofTree tree = .ok graph)
    (hacyclic : graph.MixAcyclic) (hnode : node ∈ graph.nodes)
    (h : (session.surface graph node name).1 = .ok record) :
    ∃ (unfolded : MixTree ShadingNode) (skeleton : MaterialRecord Image),
      graph.Unfolds node unfolded ∧
        unfolded.Matches (graph.WritesSockets session.settings.glossyMode) skeleton.mixtures ∧
        (session.surface graph node name).2.textures.Renders { skeleton with name } record := by
  obtain ⟨skeleton, hskeleton, hrendered⟩ := surface_renders_unnamed h
  obtain ⟨unfolded, hunfolds, hmatches⟩ :=
    Graph.surface_writes (Graph.linksResolve_of_ofTree hgraph) hacyclic hnode skeleton hskeleton
  exact ⟨unfolded, skeleton, hunfolds, hmatches, hrendered⟩

end Session

/-- A bumpy gloss over a mixture of the same gloss and rough glass. -/
def NodeTree.glaze : NodeTree where
  nodes := [
    { id := "outer", idname := "ShaderNodeMixShader", inputs := .ofList [("Fac", .scalar 0.25)] },
    { id := "inner", idname := "ShaderNodeMixShader", inputs := .ofList [("Fac", .scalar 0.5)] },
    { id := "gloss", idname := "ShaderNodeBsdfGlossy",
      inputs := .ofList [("Color", .vec4 0.9 0.8 0.7 1), ("Roughness", .scalar 0.5)] },
    { id := "pane", idname := "ShaderNodeBsdfGlass",
      inputs := .ofList [("IOR", .scalar 1.5), ("Roughness", .scalar 0.5)] },
    { id := "bumps", idname := "ShaderNodeNormalMap",
      inputs := .ofList [("Strength", .scalar 0.75)] },
    { id := "drips", idname := "ShaderNodeTexImage", image := some { name := "drips.png" } }]
  connections := [
    { source := ⟨"inner", "Shader"⟩, target := ⟨"outer", "Shader"⟩ },
    { source := ⟨"gloss", "BSDF"⟩, target := ⟨"outer", "Shader_001"⟩ },
    { source := ⟨"gloss", "BSDF"⟩, target := ⟨"inner", "Shader"⟩ },
    { source := ⟨"pane", "BSDF"⟩, target := ⟨"inner", "Shader_001"⟩ },
    { source := ⟨"bumps", "Normal"⟩, target := ⟨"gloss", "Normal"⟩ },
    { source := ⟨"drips", "Color"⟩, target := ⟨"bumps", "Color"⟩ }]

/-- The glaze does not contain itself. -/
theorem NodeTree.glaze_mixAcyclic : NodeTree.glaze.graph.MixAcyclic := by
  let rank (node : ShadingNode) :=
    if node.id = "outer" then 2 else if node.id = "inner" then 1 else 0
  have hrank : ∀ node ∈ NodeTree.glaze.graph.nodes, ∀ name ∈ ["Shader", "Shader_001"],
      ∀ side ∈ NodeTree.glaze.graph.feeding? node name, rank side < rank node := by
    decide +kernel
  refine Graph.mixAcyclic_of_rank rank fun node hnode side hmixes => ?_
  rcases hmixes.2 with hside | hside
  · exact hrank node hnode "Shader" (by decide) side hside
  · exact hrank node hnode "Shader_001" (by decide) side hside

/-- In Phong mode the gloss has one exponent wherever it stands: its roughness of one half is
squared once, and not again because a mixture or a normal map is around it. -/
theorem Session.surface_writes_sockets_glaze :
    let session := start { glossyMode := .phong }
    Graph.ofTree .glaze = .ok NodeTree.glaze.graph ∧ NodeTree.glaze.graph.MixAcyclic ∧
      ∃ outer ∈ NodeTree.glaze.graph.nodes, ∃ inner gloss pane record,
        (session.surface NodeTree.glaze.graph outer (some "Glaze")).1 = .ok record ∧
          gloss.HasLiteral "Roughness" (.scalar 0.5) ∧
          blinnExponent (0.5 * 0.5) / 4 = 7.75 ∧
          ∃ skeleton : MaterialRecord Image,
            MixTree.Matches (NodeTree.glaze.graph.WritesSockets .phong)
              (.mixture outer (.mixture inner (.leaf gloss) (.leaf pane)) (.leaf gloss))
              skeleton.mixtures := by
  intro session
  have hgraph : Graph.ofTree .glaze = .ok NodeTree.glaze.graph := rfl
  let outer := NodeTree.glaze.graph.nodes.head (by decide)
  have houter : outer ∈ NodeTree.glaze.graph.nodes := List.head_mem _
  have hunfolds : ∃ inner gloss pane, NodeTree.glaze.graph.Unfolds outer
      (.mixture outer (.mixture inner (.leaf gloss) (.leaf pane)) (.leaf gloss)) ∧
        gloss.HasLiteral "Roughness" (.scalar 0.5) :=
    ⟨_, _, _, .mixture rfl rfl rfl (.mixture rfl rfl rfl (.leaf (by decide)) (.leaf (by decide)))
      (.leaf (by decide)), _, rfl, rfl, rfl⟩
  obtain ⟨inner, gloss, pane, hunfolds, hroughness⟩ := hunfolds
  have hok : (session.surface NodeTree.glaze.graph outer (some "Glaze")).1.isOk := by
    decide +kernel
  cases hrecord : (session.surface NodeTree.glaze.graph outer (some "Glaze")).1 with
  | error error =>
    rw [hrecord] at hok
    cases hok
  | ok record =>
    obtain ⟨unfolded, skeleton, hunfolds', hmatches, -⟩ :=
      surface_writes_sockets hgraph NodeTree.glaze_mixAcyclic houter hrecord
    cases hunfolds.unique hunfolds'
    exact ⟨hgraph, NodeTree.glaze_mixAcyclic, outer, houter, inner, gloss, pane, record, hrecord,
      hroughness, by decide +kernel, skeleton, hmatches⟩

end ShadingExport
