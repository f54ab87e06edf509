import ShadingExport.Proofs.Translation.Requests
import ShadingExport.Translation.Material
import ShadingExport.Translation.World

/-!
# What becomes of materials and worlds

A host material has one record, translated, flat or a placeholder, and a world has one background,
translated or the fallback. What they refer to was asked for (`HostMaterial.translate_spec`,
`files_translateWorld_subset`) and comes from textures of their trees (`HostMaterial.Samples`,
`World.Samples`). What was asked for is referred to, unless smooth glass discards it or the
translation fails after it has asked (`HostMaterial.mem_files_of_mem_imagesOf`,
`mem_files_translateWorld`).
-/

namespace ShadingExport

open Translation

/-! ## Materials -/

theorem NodeTree.surface_accounts (tree : NodeTree) (mode : GlossyMode) (name : String) :
    (tree.surface mode name).Ensures fun events record =>
      record.name = some name ∧ ∃ graph node, Graph.ofTree tree = .ok graph ∧
        graph.surfaceNode = .ok node ∧ graph.Accounts node events record.references := by
  unfold NodeTree.surface
  simp only [liftM_except, ensures_bind, ensures_ofExcept, List.nil_append]
  intro graph hgraph node hnode
  exact (graph.surface_accounts mode node (some name)).mono fun events record hrecord =>
    ⟨hrecord.1, graph, node, hgraph, hnode, hrecord.2⟩

namespace HostMaterial

variable {material : HostMaterial} {mode : GlossyMode} {image : Image}

/-- A chain of inputs leads from the surface of a material to a texture of the image. -/
def Samples (material : HostMaterial) (inputs : List String) (image : Image) : Prop :=
  ∃ tree graph node, material.activeTree? = some tree ∧ Graph.ofTree tree = .ok graph ∧
    graph.surfaceNode = .ok node ∧ graph.Samples node inputs image

/-- The surface of a material has smooth glass whose roughness is fed by a texture of the image. -/
def Discards (material : HostMaterial) (image : Image) : Prop :=
  ∃ tree graph node, material.activeTree? = some tree ∧ Graph.ofTree tree = .ok graph ∧
    graph.surfaceNode = .ok node ∧ graph.Discards node image

/-- The translation of a material asks for an image and fails. -/
def Abandons (material : HostMaterial) (mode : GlossyMode) (image : Image) : Prop :=
  ∃ tree error, material.activeTree? = some tree ∧
    (tree.surface mode (exportedName material.name)).outcome = .error error ∧
    image ∈ imagesOf (tree.surface mode (exportedName material.name)).events

/-- **What becomes of a host material**: without a tree that counts it is flat; a tree that can be
translated gives a record that accounts for its images; and a tree that cannot is reported, after
what it asked for, and leaves a placeholder. -/
theorem translate_cases (material : HostMaterial) (mode : GlossyMode) :
    material.translate mode = ⟨[], material.flatRecord⟩ ∨
      (∃ tree graph node events record, material.activeTree? = some tree ∧
        Graph.ofTree tree = .ok graph ∧ graph.surfaceNode = .ok node ∧
        material.translate mode = ⟨events, record⟩ ∧
        record.name = some (exportedName material.name) ∧
        graph.Accounts node events record.references) ∨
      ∃ tree error, material.activeTree? = some tree ∧
        (tree.surface mode (exportedName material.name)).outcome = .error error ∧
        material.translate mode =
          ⟨(tree.surface mode (exportedName material.name)).events ++
            [.report (.materialFailed material.name error)], placeholderMaterial material.name⟩ := by
  unfold translate
  cases htree : material.activeTree? with
  | none => exact .inl rfl
  | some tree =>
    cases houtcome : (tree.surface mode (exportedName material.name)).outcome with
    | ok record =>
      obtain ⟨hname, graph, node, hgraph, hnode, haccounts⟩ :=
        tree.surface_accounts mode _ record houtcome
      exact .inr (.inl ⟨tree, graph, node, _, record, rfl, hgraph, hnode, settle_of_ok _ houtcome,
        hname, haccounts⟩)
    | error error =>
      exact .inr (.inr ⟨tree, error, rfl, houtcome, settle_of_error _ houtcome⟩)

/-- **A host material gives one record of its exported name**, and every image in it was asked
for. -/
theorem translate_spec (material : HostMaterial) (mode : GlossyMode) :
    (material.translate mode).value.name = some (exportedName material.name) ∧
      (material.translate mode).value.files ⊆ imagesOf (material.translate mode).events := by
  obtain hflat | ⟨tree, graph, node, events, record, -, -, -, hrecord, hname, haccounts⟩ |
    ⟨tree, error, -, -, hfailed⟩ := material.translate_cases mode
  · rw [hflat]
    exact ⟨rfl, List.nil_subset _⟩
  · rw [hrecord]
    refine ⟨hname, ?_⟩
    rw [← record.map_file_references]
    exact haccounts.asked
  · rw [hfailed]
    exact ⟨rfl, List.nil_subset _⟩

/-- Every reference in the record of a material leads to a texture of its tree. -/
theorem samples_of_mem_references {reference : Reference Image}
    (h : reference ∈ (material.translate mode).value.references) :
    material.Samples reference.inputs reference.file := by
  obtain hflat | ⟨tree, graph, node, events, record, htree, hgraph, hnode, hrecord, -, haccounts⟩ |
    ⟨tree, error, -, -, hfailed⟩ := material.translate_cases mode
  · rw [hflat] at h
    cases h
  · rw [hrecord] at h
    exact ⟨tree, graph, node, htree, hgraph, hnode, haccounts.sampled reference h⟩
  · rw [hfailed] at h
    cases h

/-- What the translation of a material asks for is in its record, unless smooth glass discards it or
the translation fails. -/
theorem mem_files_of_mem_imagesOf (h : image ∈ imagesOf (material.translate mode).events) :
    image ∈ (material.translate mode).value.files ∨ material.Discards image ∨
      material.Abandons mode image := by
  obtain hflat | ⟨tree, graph, node, events, record, htree, hgraph, hnode, hrecord, -, haccounts⟩ |
    ⟨tree, error, htree, houtcome, hfailed⟩ := material.translate_cases mode
  · rw [hflat] at h
    cases h
  · rw [hrecord] at h ⊢
    rw [← record.map_file_references]
    exact (haccounts.used image h).imp_right fun hdiscards =>
      .inl ⟨tree, graph, node, htree, hgraph, hnode, hdiscards⟩
  · rw [hfailed, imagesOf_append] at h
    have hevents := (List.mem_append.mp h).resolve_right List.not_mem_nil
    exact .inr (.inr ⟨tree, error, htree, houtcome, hevents⟩)

end HostMaterial

/-! ## Worlds -/

/-- The node is an environment texture of the image. -/
def ShadingNode.IsEnvironmentOf (node : ShadingNode) (image : Image) : Prop :=
  node.kind = .environmentTexture ∧ node.image = some image

/-- A background accounts for the images that some events ask for: they are its files, and each of
them is shown. -/
structure Background.Accounts (shown : Image → Prop) (events : List Event)
    (background : Background Image) : Prop where
  /-- The files are the images that were asked for. -/
  asked : imagesOf events = background.files
  /-- Every file is shown. -/
  sampled : ∀ image ∈ background.files, shown image

namespace Background.Accounts

variable {shown : Image → Prop} {events : List Event} {background : Background Image}

/-- A background without images accounts for events without images. -/
theorem of_nil (hevents : imagesOf events = []) (hfiles : background.files = []) :
    background.Accounts shown events where
  asked := hevents.trans hfiles.symm
  sampled := by
    rw [hfiles]
    intro image himage
    cases himage

/-- What shows an image may be seen from further away. -/
theorem mono {farther : Image → Prop} (h : background.Accounts shown events)
    (hfarther : ∀ image, shown image → farther image) : background.Accounts farther events where
  asked := h.asked
  sampled := fun image himage => hfarther image (h.sampled image himage)

end Background.Accounts

theorem constantRadiance_accounts (base : Color) (strength : Float) (shown : Image → Prop) :
    (Graph.constantRadiance base strength).Ensures (Background.Accounts shown) := by
  unfold Graph.constantRadiance
  refine ensures_ite ?_ ?_
  · rw [ensures_bind, ensures_report, ensures_pure]
    exact .of_nil rfl rfl
  · rw [ensures_pure]
    exact .of_nil rfl rfl

namespace Graph

variable {graph : Graph} {node : ShadingNode}

theorem envmap_accounts (graph : Graph) (node : ShadingNode) (scale : Float) :
    (graph.envmap node scale).Ensures
      (Background.Accounts fun image => node.image = some image) := by
  unfold envmap
  simp only [liftM_except, ensures_bind, ensures_ofExcept, ensures_emit, List.nil_append]
  intro image himage
  rw [ShadingNode.getImage_eq_ok] at himage
  -- The mapping decides about the rotation, not about the image.
  split
  · rw [ensures_pure]
    exact ⟨rfl, by simpa [Background.files] using himage⟩
  · simp only [ensures_bind, ensures_ofExcept, ensures_pure]
    exact fun rotation _ => ⟨rfl, by simpa [Background.files] using himage⟩

theorem emittedBackground_accounts (graph : Graph) (node : ShadingNode) (strength : Float) :
    (graph.emittedBackground node strength).Ensures (Background.Accounts fun image =>
      ∃ texture, graph.feeding? node "Color" = some texture ∧ texture.IsEnvironmentOf image) := by
  unfold emittedBackground
  simp only [liftM_except, ensures_bind, ensures_ofExcept, List.nil_append]
  intro socket hsocket
  rw [ShadingNode.getInput_eq_ok] at hsocket
  split
  · simp only [ensures_bind, ensures_ofExcept, List.nil_append]
    exact fun color _ => constantRadiance_accounts color strength _
  · next source hsource =>
    split
    · next hkind =>
      refine (graph.envmap_accounts source strength).mono fun events background hbackground => ?_
      exact hbackground.mono fun image himage =>
        ⟨source, feeding?_of_upstream? hsocket hsource, hkind, himage⟩
    · simp only [ensures_bind, ensures_ofExcept, List.nil_append]
      exact fun color _ => constantRadiance_accounts color strength _
    · exact ensures_fail

theorem surfaceBackground_accounts (graph : Graph) (node : ShadingNode) :
    (graph.surfaceBackground node).Ensures (Background.Accounts fun image =>
      ∃ texture, graph.feeding? node "Color" = some texture ∧ texture.IsEnvironmentOf image) := by
  unfold surfaceBackground
  simp only [liftM_except, ensures_bind, ensures_ofExcept, List.nil_append]
  intro socket _
  refine ensures_ite ensures_fail ?_
  simp only [ensures_bind, ensures_ofExcept, List.nil_append]
  intro strength _
  refine ensures_ite ?_ (ensures_ite (graph.emittedBackground_accounts node strength) ensures_fail)
  rw [ensures_bind, ensures_report, ensures_pure]
  exact .of_nil rfl rfl

end Graph

namespace World

variable {world : World} {image : Image}

/-- The color of a world's light is an environment texture of the image. -/
def Samples (world : World) (image : Image) : Prop :=
  ∃ tree graph output texture, world.activeTree? = some tree ∧ Graph.ofTree tree = .ok graph ∧
    graph.output? = some output ∧ graph.follow? output ["Surface", "Color"] = some texture ∧
    texture.IsEnvironmentOf image

/-- The translation of a world asks for an image and fails. -/
def Abandons (world : World) (image : Image) : Prop :=
  ∃ error, world.background.outcome = .error error ∧ image ∈ imagesOf world.background.events

/-- **A world accounts for its image**: the background of a world that can be translated has the
image that was asked for, which comes from an environment texture. -/
theorem background_accounts (world : World) :
    world.background.Ensures (Background.Accounts world.Samples) := by
  unfold World.background
  split
  · next tree htree =>
    simp only [liftM_except, ensures_bind, ensures_ofExcept, List.nil_append]
    intro graph hgraph
    unfold Graph.background
    split
    · rw [ensures_bind, ensures_report, ensures_pure]
      exact .of_nil rfl rfl
    · next output houtput =>
      split
      · rw [ensures_pure]
        exact .of_nil rfl rfl
      · next surface hsurface =>
        refine (graph.surfaceBackground_accounts surface).mono fun events background h => ?_
        refine h.mono fun image himage => ?_
        obtain ⟨texture, htexture, henvironment⟩ := himage
        refine ⟨tree, graph, output, texture, htree, hgraph, houtput, ?_, henvironment⟩
        rw [Graph.follow?, hsurface, Option.bind_some, Graph.follow?, htexture]
        rfl
  · split
    · rw [ensures_pure]
      exact .of_nil rfl rfl
    · exact ensures_fail

end World

variable {world : Option World} {image : Image}

/-- **What becomes of a world**: without a world nothing shines; a world that can be translated
gives a background that accounts for its images; and a world that cannot is reported, after what it
asked for, and leaves the fallback. -/
theorem translateWorld_cases (world : Option World) :
    (world = none ∧ translateWorld world = ⟨[.report .noWorld], darkBackground⟩) ∨
      (∃ surroundings events background, world = some surroundings ∧
        translateWorld world = ⟨events, background⟩ ∧
        background.Accounts surroundings.Samples events) ∨
      ∃ surroundings error, world = some surroundings ∧
        surroundings.background.outcome = .error error ∧
        translateWorld world = ⟨surroundings.background.events ++ [.report (.worldFailed error)],
          fallbackBackground⟩ := by
  cases world with
  | none => exact .inl ⟨rfl, rfl⟩
  | some world =>
    cases houtcome : world.background.outcome with
    | ok background =>
      exact .inr (.inl ⟨world, _, background, rfl, settle_of_ok _ houtcome,
        world.background_accounts background houtcome⟩)
    | error error =>
      exact .inr (.inr ⟨world, error, rfl, houtcome, settle_of_error _ houtcome⟩)

/-- **The image of a background was asked for**, if the background has one. -/
theorem files_translateWorld_subset (world : Option World) :
    (translateWorld world).value.files ⊆ imagesOf (translateWorld world).events := by
  obtain ⟨-, hdark⟩ | ⟨surroundings, events, background, -, hbackground, haccounts⟩ |
    ⟨surroundings, error, -, -, hfailed⟩ := translateWorld_cases world
  · rw [hdark]
    exact List.nil_subset _
  · rw [hbackground]
    rw [haccounts.asked]
    exact List.Subset.refl _
  · rw [hfailed]
    exact List.nil_subset _

/-- The image of a background comes from an environment texture. -/
theorem samples_of_mem_files_translateWorld (h : image ∈ (translateWorld world).value.files) :
    ∃ surroundings, world = some surroundings ∧ surroundings.Samples image := by
  obtain ⟨-, hdark⟩ | ⟨surroundings, events, background, hworld, hbackground, haccounts⟩ |
    ⟨surroundings, error, -, -, hfailed⟩ := translateWorld_cases world
  · rw [hdark] at h
    cases h
  · rw [hbackground] at h
    exact ⟨surroundings, hworld, haccounts.sampled image h⟩
  · rw [hfailed] at h
    cases h

/-- What the translation of a world asks for is in its background, unless the translation fails. -/
theorem mem_files_translateWorld (h : image ∈ imagesOf (translateWorld world).events) :
    image ∈ (translateWorld world).value.files ∨
      ∃ surroundings, world = some surroundings ∧ surroundings.Abandons image := by
  obtain ⟨-, hdark⟩ | ⟨surroundings, events, background, -, hbackground, haccounts⟩ |
    ⟨surroundings, error, hworld, houtcome, hfailed⟩ := translateWorld_cases world
  · rw [hdark] at h
    cases h
  · rw [hbackground] at h ⊢
    rw [← haccounts.asked]
    exact .inl h
  · rw [hfailed, imagesOf_append] at h
    have hevents := (List.mem_append.mp h).resolve_right List.not_mem_nil
    exact .inr ⟨surroundings, hworld, error, houtcome, hevents⟩

end ShadingExport
