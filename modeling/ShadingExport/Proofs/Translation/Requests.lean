import ShadingExport.Proofs.Translation.Provenance
import ShadingExport.Proofs.Translation.Success

/-!
# Images that are asked for, and images that are used

A translator that succeeds has asked for every image in its result, so performing its events gives
each of them a path; every image in its result is that of the texture behind its chain of inputs;
and what it asked for is in its result, except for the roughness of smooth glass
(`Graph.Accounts`). The statement is ensured translator by translator, from sockets to surfaces
(`Graph.surface_accounts`), which also have the names that they were to get. A mixture is ensured if
its sides are, which the nesting of mixtures carries up.
-/

namespace ShadingExport

namespace Translation

@[simp] theorem imagesOf_nil : imagesOf [] = [] := rfl

@[simp] theorem imagesOf_append (first second : List Event) :
    imagesOf (first ++ second) = imagesOf first ++ imagesOf second :=
  List.filterMap_append

@[simp] theorem imagesOf_cons_report (message : Report) (events : List Event) :
    imagesOf (.report message :: events) = imagesOf events := rfl

@[simp] theorem imagesOf_cons_trace (trace : Trace) (events : List Event) :
    imagesOf (.trace trace :: events) = imagesOf events := rfl

@[simp] theorem imagesOf_cons_texture (image : Image) (events : List Event) :
    imagesOf (.texture image :: events) = image :: imagesOf events := rfl

end Translation

open Translation

/-! ## Accounts -/

/-- References at a node account for the images that some events ask for: every file was asked for,
every file is that of the texture that its inputs lead to, and what was asked for is referred to,
unless smooth glass discards it. -/
structure Graph.Accounts (graph : Graph) (node : ShadingNode) (events : List Event)
    (references : List (Reference Image)) : Prop where
  /-- Every file was asked for. -/
  asked : references.map Reference.file ⊆ imagesOf events
  /-- The inputs of every reference lead to a texture of its file. -/
  sampled : ∀ reference ∈ references, graph.Samples node reference.inputs reference.file
  /-- What was asked for is referred to, or discarded. -/
  used : ∀ image ∈ imagesOf events,
    image ∈ references.map Reference.file ∨ graph.Discards node image

namespace Graph.Accounts

variable {graph : Graph} {node : ShadingNode} {events before after : List Event}
  {references later : List (Reference Image)}

/-- Without requests there is nothing to refer to. -/
theorem nil (h : imagesOf events = []) : graph.Accounts node events [] where
  asked := List.nil_subset _
  sampled := by
    intro reference hreference
    cases hreference
  used := by
    intro image himage
    rw [h] at himage
    cases himage

/-- The roughness of smooth glass is asked for and not referred to. -/
theorem of_drops (h : ∀ image ∈ imagesOf events, graph.Drops node image) :
    graph.Accounts node events [] where
  asked := List.nil_subset _
  sampled := by
    intro reference hreference
    cases hreference
  used := by
    intro image himage
    exact .inr ⟨node, .refl, h image himage⟩

/-- The images that a socket shows, all of them asked for, are referred to at its input. -/
theorem atInput {input : String} {socket : Socket} {files : List Image}
    (hsocket : node.input? input = some socket) (himages : imagesOf events = files)
    (hshown : ∀ image ∈ files, ∃ source, graph.upstream? socket = some source ∧
      graph.Shows source image) :
    graph.Accounts node events (referencesAt input files) where
  asked := by
    rw [map_file_referencesAt, himages]
    exact List.Subset.refl _
  sampled := by
    intro reference hreference
    obtain ⟨image, himage, rfl⟩ := List.mem_map.mp hreference
    obtain ⟨source, hsource, hshows⟩ := hshown image himage
    exact samples_singleton (feeding?_of_upstream? hsocket hsource) hshows
  used := by
    intro image himage
    rw [map_file_referencesAt, ← himages]
    exact .inl himage

/-- One step after another accounts for the references of both. -/
theorem append (h : graph.Accounts node before references)
    (hlater : graph.Accounts node after later) :
    graph.Accounts node (before ++ after) (references ++ later) where
  asked := by
    rw [List.map_append, imagesOf_append]
    exact List.append_subset.mpr ⟨List.subset_append_of_subset_left _ h.asked,
      List.subset_append_of_subset_right _ hlater.asked⟩
  sampled := List.forall_mem_append.mpr ⟨h.sampled, hlater.sampled⟩
  used := by
    rw [List.map_append, imagesOf_append, List.forall_mem_append]
    constructor
    · intro image himage
      exact (h.used image himage).imp_left (List.mem_append_left _)
    · intro image himage
      exact (hlater.used image himage).imp_left (List.mem_append_right _)

/-- Steps without requests in front do not matter. -/
theorem after_nil (hbefore : imagesOf before = []) (h : graph.Accounts node events references) :
    graph.Accounts node (before ++ events) references :=
  (nil hbefore).append h

/-- The order of the references does not matter. -/
theorem perm (h : graph.Accounts node events references) (hperm : references.Perm later) :
    graph.Accounts node events later where
  asked := by
    intro image himage
    exact h.asked ((hperm.map Reference.file).mem_iff.mpr himage)
  sampled := by
    intro reference hreference
    exact h.sampled reference (hperm.mem_iff.mpr hreference)
  used := by
    intro image himage
    exact (h.used image himage).imp_left (hperm.map Reference.file).mem_iff.mp

/-- What a side of a mixture refers to, the mixture refers to through the input of the side. -/
theorem ofSide {input : String} {side : ShadingNode} (h : graph.Accounts side events references)
    (hmixes : graph.Mixes node side) (hside : graph.feeding? node input = some side) :
    graph.Accounts node events (referencesThrough input references) where
  asked := by
    rw [map_file_referencesThrough]
    exact h.asked
  sampled := by
    intro reference hreference
    obtain ⟨inner, hinner, rfl⟩ := List.mem_map.mp hreference
    exact (h.sampled inner hinner).cons hside
  used := by
    intro image himage
    rw [map_file_referencesThrough]
    exact (h.used image himage).imp_right (Discards.of_mixes hmixes)

end Graph.Accounts

/-! ## Sockets -/

theorem ShadingNode.texture_ensures (node : ShadingNode) :
    node.texture.Ensures fun events texture =>
      imagesOf events = [texture.file] ∧ node.image = some texture.file := by
  unfold texture
  simp only [liftM_except, ensures_bind, ensures_ofExcept, ensures_emit]
  intro image himage
  rw [getImage_eq_ok] at himage
  -- The color space decides about a report, not about the image.
  refine ensures_ite ?_ ?_
  · simp [himage]
  · simp [himage]

theorem ShadingNode.refractionIndex_ensures (node : ShadingNode) :
    node.refractionIndex.Ensures fun events _ => imagesOf events = [] := by
  unfold refractionIndex
  simp only [liftM_except, ensures_bind, ensures_ofExcept, List.nil_append]
  intro socket _
  refine ensures_ite ?_ ?_
  · simp
  · simp

namespace Graph

variable {graph : Graph} {mode : GlossyMode} {node : ShadingNode}

theorem scalar_ensures (graph : Graph) (socket : Socket) :
    (graph.scalar socket).Ensures fun events value =>
      imagesOf events = value.files ∧ ∀ image ∈ value.files,
        ∃ texture, graph.upstream? socket = some texture ∧ texture.IsTextureOf image := by
  unfold scalar
  simp only [bind_pure_comp, liftM_except]
  split
  · simp [VaryingScalar.files]
  · next source hsource =>
    split
    · next hkind =>
      rw [ensures_map]
      refine source.texture_ensures.mono fun events texture htexture => ⟨htexture.1, ?_⟩
      intro image himage
      rw [List.mem_singleton.mp himage]
      exact ⟨source, hsource, hkind, htexture.2⟩
    · rw [ensures_map]
      refine source.refractionIndex_ensures.mono fun events ior hevents => ⟨hevents, ?_⟩
      intro image himage
      cases himage
    · exact ensures_fail

theorem tangentNormals_ensures (graph : Graph) (node : ShadingNode) :
    (graph.tangentNormals node).Ensures fun events value =>
      imagesOf events = value.files ∧ ∀ image ∈ value.files,
        ∃ texture, graph.feeding? node "Color" = some texture ∧ texture.IsTextureOf image := by
  unfold tangentNormals
  refine ensures_ite ensures_fail ?_
  simp only [bind_pure_comp, liftM_except, ensures_bind, ensures_ofExcept, List.nil_append]
  intro socket hsocket
  rw [ShadingNode.getInput_eq_ok] at hsocket
  split
  · exact ensures_fail
  · next source hsource =>
    split
    · next hkind =>
      rw [ensures_map]
      refine source.texture_ensures.mono fun events texture htexture => ⟨htexture.1, ?_⟩
      intro image himage
      rw [List.mem_singleton.mp himage]
      exact ⟨source, feeding?_of_upstream? hsocket hsource, hkind, htexture.2⟩
    · exact ensures_fail

theorem color_ensures (graph : Graph) (socket : Socket) :
    (graph.color socket).Ensures fun events value =>
      imagesOf events = value.files ∧ ∀ image ∈ value.files,
        ∃ source, graph.upstream? socket = some source ∧ graph.Shows source image := by
  unfold color
  simp only [bind_pure_comp, liftM_except]
  split
  · simp [VaryingColor.files]
  · next source hsource =>
    split
    · next hkind =>
      rw [ensures_map]
      refine source.texture_ensures.mono fun events texture htexture => ⟨htexture.1, ?_⟩
      intro image himage
      rw [List.mem_singleton.mp himage]
      exact ⟨source, hsource, .inl ⟨hkind, htexture.2⟩⟩
    · next hkind =>
      refine (graph.tangentNormals_ensures source).mono fun events normals hnormals =>
        ⟨hnormals.1, ?_⟩
      intro image himage
      exact ⟨source, hsource, .inr ⟨hkind, hnormals.2 image himage⟩⟩
    · simp [VaryingColor.files]
    · exact ensures_fail

/-- The scalar of an input refers to what feeds the input. -/
theorem scalar_accounts {input : String} {socket : Socket}
    (hsocket : node.input? input = some socket) :
    (graph.scalar socket).Ensures fun events value =>
      graph.Accounts node events (referencesAt input value.files) := by
  refine (graph.scalar_ensures socket).mono fun events value hvalue => ?_
  refine .atInput hsocket hvalue.1 fun image himage => ?_
  obtain ⟨texture, htexture, hshows⟩ := hvalue.2 image himage
  exact ⟨texture, htexture, .inl hshows⟩

/-- The color of an input refers to what feeds the input. -/
theorem color_accounts {input : String} {socket : Socket}
    (hsocket : node.input? input = some socket) :
    (graph.color socket).Ensures fun events value =>
      graph.Accounts node events (referencesAt input value.files) :=
  (graph.color_ensures socket).mono fun _ _ hvalue => .atInput hsocket hvalue.1 hvalue.2

theorem optionalColor_accounts (graph : Graph) (node : ShadingNode) (input : String) :
    (graph.optionalColor node input).Ensures fun events value =>
      graph.Accounts node events (referencesAt input (optionalFiles value)) := by
  unfold optionalColor
  simp only [bind_pure_comp]
  split
  · rw [ensures_pure]
    exact .nil rfl
  · next socket hsocket =>
    rw [ensures_map]
    exact color_accounts hsocket

theorem roughness_accounts (graph : Graph) (node : ShadingNode) :
    (graph.roughness node).Ensures fun events value =>
      graph.Accounts node events (referencesAt roughnessName value.files) := by
  unfold roughness
  simp only [liftM_except, ensures_bind, ensures_ofExcept, List.nil_append]
  intro socket hsocket
  exact scalar_accounts (ShadingNode.getInput_eq_ok.mp hsocket)

/-! ## Surfaces -/

/-- What a material refers to accounts for the images that were asked for. -/
def AccountsFor (graph : Graph) (node : ShadingNode) (events : List Event)
    (material : Material Image (MaterialRecord Image)) : Prop :=
  ∀ name, graph.Accounts node events (⟨name, material⟩ : MaterialRecord Image).references

theorem diffuse_accounts (graph : Graph) (node : ShadingNode) :
    (graph.diffuse node).Ensures (graph.AccountsFor node) := by
  unfold diffuse
  simp only [bind_pure_comp]
  have hcolor : ((fun albedo => Material.lambertian albedo) <$>
      graph.optionalColor node "Color").Ensures (graph.AccountsFor node) := by
    rw [ensures_map]
    exact (graph.optionalColor_accounts node "Color").mono fun events albedo halbedo _ => halbedo
  refine ensures_ite ?_ hcolor
  rw [ensures_bind, ensures_report]
  exact hcolor.mono fun events material hmaterial name => (hmaterial name).after_nil rfl

section Glossy

variable {color : Socket} (hcolor : node.input? "Color" = some color)

include hcolor

theorem glossyConductor_accounts (distribution : Option Microfacet) :
    (graph.glossyConductor node color distribution).Ensures (graph.AccountsFor node) := by
  unfold glossyConductor
  simp only [bind_pure_comp]
  split
  · rw [ensures_bind]
    refine (graph.roughness_accounts node).mono fun before roughness hroughness => ?_
    rw [ensures_map]
    exact (color_accounts hcolor).mono fun after albedo halbedo _ => hroughness.append halbedo
  · rw [ensures_map]
    exact (color_accounts hcolor).mono fun events albedo halbedo _ => halbedo

theorem glossyMetal_accounts (distribution : Option Microfacet) :
    (graph.glossyMetal node color distribution).Ensures (graph.AccountsFor node) := by
  have halbedo : ∀ roughness : VaryingScalar Image, ∀ before,
      graph.Accounts node before (referencesAt roughnessName roughness.files) →
      (Material.metal roughness <$> graph.color color :
        Translation (Material Image (MaterialRecord Image))).Ensures
          fun after material => graph.AccountsFor node (before ++ after) material := by
    intro roughness before hroughness
    rw [ensures_map]
    exact (color_accounts hcolor).mono fun after albedo halbedo _ => hroughness.append halbedo
  unfold glossyMetal
  simp only [bind_pure_comp]
  split
  · rw [ensures_bind]
    exact (graph.roughness_accounts node).mono fun before roughness hroughness =>
      halbedo roughness before hroughness
  · rw [pure_bind]
    exact halbedo (.constant 0) [] (.nil rfl)

/-- The materials with an exponent have one color and nothing else that varies. -/
theorem glossyExponent_accounts (distribution : Option Microfacet)
    {material : Float → Microfacet → VaryingColor Image → Material Image (MaterialRecord Image)}
    (hmaterial : ∀ exponent distribution albedo name,
      (⟨name, material exponent distribution albedo⟩ : MaterialRecord Image).references =
        referencesAt "Color" albedo.files) :
    (graph.glossyExponent node color distribution material).Ensures (graph.AccountsFor node) := by
  unfold glossyExponent
  simp only [liftM_except, ensures_bind, ensures_ofExcept, List.nil_append]
  intro socket _
  refine ensures_ite ensures_fail ?_
  simp only [ensures_bind, ensures_ofExcept, List.nil_append]
  intro roughness _
  refine (color_accounts hcolor).mono fun events albedo halbedo => ?_
  have hsmooth : (pure (.metal (.constant 0) albedo) :
      Translation (Material Image (MaterialRecord Image))).Ensures
        fun after material => graph.AccountsFor node (events ++ after) material := by
    rw [ensures_pure, List.append_nil]
    exact fun _ => halbedo
  split
  · refine ensures_ite ?_ hsmooth
    rw [ensures_pure, List.append_nil]
    intro name
    rw [hmaterial]
    exact halbedo
  · exact hsmooth

end Glossy

theorem glossy_accounts (graph : Graph) (mode : GlossyMode) (node : ShadingNode) :
    (graph.glossy mode node).Ensures (graph.AccountsFor node) := by
  unfold glossy
  simp only [liftM_except, ensures_bind, ensures_ofExcept, List.nil_append]
  intro distribution _ color hcolor
  rw [ShadingNode.getInput_eq_ok] at hcolor
  cases mode with
  | roughConductor => exact glossyConductor_accounts hcolor _
  | metal => exact glossyMetal_accounts hcolor _
  | blinnPhong => exact glossyExponent_accounts hcolor _ fun _ _ _ _ => rfl
  | phong => exact glossyExponent_accounts hcolor _ fun _ _ _ _ => rfl

/-- A texture is never the literal zero. -/
theorem isZero_of_mem_files {value : VaryingScalar Image} {image : Image}
    (h : image ∈ value.files) : value.isZero = false := by
  cases value with
  | texture reference => rfl
  | _ => cases h

/-- Only ideal specular reflection has no microfacet distribution. -/
theorem eq_sharp_of_microfacet?_eq_none {distribution : Distribution}
    (h : distribution.microfacet? = none) : distribution = .sharp := by
  cases distribution with
  | sharp => rfl
  | _ => cases h

/-- Glass that does not become rough drops the texture of its roughness, if there is one: it is
smooth because of its distribution. -/
theorem glass_accounts (graph : Graph) (hkind : node.kind = .glass) :
    (graph.glass node).Ensures (graph.AccountsFor node) := by
  unfold glass
  rw [ensures_bind]
  refine node.refractionIndex_ensures.mono fun first ior hfirst => ?_
  unfold roughness
  simp only [liftM_except, ensures_bind, ensures_ofExcept, List.nil_append]
  intro socket hsocket
  rw [ShadingNode.getInput_eq_ok] at hsocket
  intro roughness hroughness distribution hdistribution
  refine (graph.optionalColor_accounts node "Color").mono fun after transmittance hafter => ?_
  split
  · rw [ensures_pure, List.append_nil]
    intro name
    exact .after_nil hfirst ((scalar_accounts hsocket roughness hroughness).append hafter)
  · next hnotRough =>
    have hdrops : ∀ image ∈ imagesOf (graph.scalar socket).events, graph.Drops node image := by
      intro image himage
      obtain ⟨himages, htextures⟩ := graph.scalar_ensures socket roughness hroughness
      rw [himages] at himage
      obtain ⟨texture, htexture, hshows⟩ := htextures image himage
      refine ⟨hkind, ?_, texture, feeding?_of_upstream? hsocket htexture, hshows⟩
      rw [hdistribution]
      cases hmicrofacet : distribution.microfacet? with
      | none => rw [eq_sharp_of_microfacet?_eq_none hmicrofacet]
      | some microfacet =>
        exact absurd (isZero_of_mem_files himage) fun hzero =>
          hnotRough microfacet hmicrofacet hzero
    refine ensures_ite ?_ ?_
    all_goals
      rw [ensures_pure, List.append_nil]
      exact fun _ => .after_nil hfirst ((Accounts.of_drops hdrops).append hafter)

theorem emission_accounts (graph : Graph) (node : ShadingNode) :
    node.emission.Ensures (graph.AccountsFor node) := by
  unfold ShadingNode.emission
  simp only [liftM_except, ensures_bind, ensures_ofExcept, List.nil_append]
  intro strength _
  refine ensures_ite ensures_fail ?_
  simp only [ensures_bind, ensures_ofExcept, List.nil_append]
  intro color _
  refine ensures_ite ensures_fail ?_
  simp only [ensures_bind, ensures_ofExcept, List.nil_append]
  intro base _ factor _
  -- Neither the light nor its dark replacement has a texture.
  refine ensures_ite ?_ ?_
  · rw [ensures_bind, ensures_report, ensures_pure]
    exact fun _ => .nil rfl
  · rw [ensures_pure]
    exact fun _ => .nil rfl

section Sides

variable {side : ShadingNode → Translation (MaterialRecord Image)}
  (hside : ∀ child, (side child).Ensures fun events record =>
    graph.Accounts child events record.references)

include hside

theorem blend_accounts (hkind : node.kind = .mix) :
    (graph.blend side node).Ensures (graph.AccountsFor node) := by
  unfold blend
  split
  · next first second hfirst hsecond =>
    simp only [liftM_except, ensures_bind, ensures_ofExcept, List.nil_append]
    intro fac hfac
    rw [ShadingNode.getInput_eq_ok] at hfac
    refine (scalar_accounts hfac).mono fun before amount hamount => ?_
    refine (hside first).mono fun between firstRecord hfirstRecord => ?_
    refine (hside second).mono fun after secondRecord hsecondRecord => ?_
    rw [ensures_pure, List.append_nil, ← List.append_assoc]
    intro name
    exact (hamount.append (hfirstRecord.ofSide ⟨hkind, .inl hfirst⟩ hfirst)).append
      (hsecondRecord.ofSide ⟨hkind, .inr hsecond⟩ hsecond)
  · exact ensures_fail

theorem material_accounts (mode : GlossyMode) (node : ShadingNode) :
    (graph.material mode side node).Ensures (graph.AccountsFor node) := by
  unfold material
  split
  · exact graph.diffuse_accounts node
  · exact graph.glossy_accounts mode node
  · next hkind => exact graph.glass_accounts hkind
  · exact graph.emission_accounts node
  · next hkind => exact blend_accounts hside hkind
  · exact ensures_fail

end Sides

theorem normalStrength_ensures (graph : Graph) (normal : Socket) :
    (graph.normalStrength normal).Ensures fun events _ => imagesOf events = [] := by
  unfold normalStrength
  simp only [bind_pure_comp, liftM_except]
  split
  · simp
  · refine ensures_ite ?_ ?_
    · simp only [ensures_bind, ensures_ofExcept, List.nil_append]
      intro strength _
      refine ensures_ite ensures_fail ?_
      simp
    · simp

/-- Perturbed normals take over the name of a record, and refer to the images of the normals. -/
theorem perturbed_accounts {before : List Event} {material : Material Image (MaterialRecord Image)}
    (hmaterial : graph.AccountsFor node before material) (name : Option String) :
    (graph.perturbed node ⟨name, material⟩).Ensures fun after record =>
      record.name = name ∧ graph.Accounts node (before ++ after) record.references := by
  have hsame : (pure ⟨name, material⟩ : Translation (MaterialRecord Image)).Ensures
      fun after record =>
        record.name = name ∧ graph.Accounts node (before ++ after) record.references := by
    rw [ensures_pure, List.append_nil]
    exact ⟨rfl, hmaterial name⟩
  unfold perturbed
  split
  · next normal hnormal =>
    refine ensures_ite ?_ hsame
    unfold withNormals
    simp only [ensures_bind]
    refine (color_accounts hnormal).mono fun between normals hnormals => ?_
    refine (graph.normalStrength_ensures normal).mono fun after strength hafter => ?_
    rw [ensures_pure, List.append_nil]
    refine ⟨rfl, ?_⟩
    -- The record refers to the normals first, but they are asked for after everything else.
    have hboth := (hmaterial none).append (hnormals.append (.nil hafter))
    rw [List.append_nil] at hboth
    exact hboth.perm List.perm_append_comm
  · exact hsame

theorem surfaceStep_accounts {side : ShadingNode → Translation (MaterialRecord Image)}
    (hside : ∀ child, (side child).Ensures fun events record =>
      graph.Accounts child events record.references)
    (mode : GlossyMode) (node : ShadingNode) (name : Option String) :
    (graph.surfaceStep mode side node name).Ensures fun events record =>
      record.name = name ∧ graph.Accounts node events record.references := by
  unfold surfaceStep
  simp only [ensures_bind, ensures_emit]
  refine (material_accounts hside mode node).mono fun before material hmaterial => ?_
  refine (perturbed_accounts hmaterial name).mono fun after record hrecord => ?_
  exact ⟨hrecord.1, hrecord.2.after_nil rfl⟩

/-- The bound is an induction over the nesting of mixtures: the sides of a mixture are translated
with a smaller one. -/
theorem surfaceWithin_accounts (graph : Graph) (mode : GlossyMode) (depth : Nat)
    (node : ShadingNode) (name : Option String) :
    (graph.surfaceWithin mode depth node name).Ensures fun events record =>
      record.name = name ∧ graph.Accounts node events record.references := by
  induction depth generalizing node name with
  | zero => exact ensures_fail
  | succ depth ih =>
    exact surfaceStep_accounts (fun child => (ih child none).mono fun _ _ h => h.2) mode node name

/-- **A surface accounts for its images**: a translated node has the name that it was to get, and
its record refers to the images that were asked for on the way, each through the inputs that lead
to its texture. -/
theorem surface_accounts (graph : Graph) (mode : GlossyMode) (node : ShadingNode)
    (name : Option String) :
    (graph.surface mode node name).Ensures fun events record =>
      record.name = name ∧ graph.Accounts node events record.references :=
  graph.surfaceWithin_accounts mode graph.size node name

/-- **A surface has its name and its images**: a translated node has the name that it was to get,
and every image in its record was asked for on the way. -/
theorem surface_ensures (graph : Graph) (mode : GlossyMode) (node : ShadingNode)
    (name : Option String) :
    (graph.surface mode node name).Ensures fun events record =>
      record.name = name ∧ record.files ⊆ imagesOf events := by
  refine (graph.surface_accounts mode node name).mono fun events record hrecord => ⟨hrecord.1, ?_⟩
  rw [← record.map_file_references]
  exact hrecord.2.asked

end Graph

end ShadingExport
