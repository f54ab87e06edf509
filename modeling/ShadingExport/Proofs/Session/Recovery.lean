import ShadingExport.Proofs.Session.ExactlyOnce
import ShadingExport.Proofs.Session.Rendering
import ShadingExport.Proofs.Surface.Remarks

/-!
# Recovery from failed materials

Writing a material never fails. If its exported name is taken, there is one report at most and
nothing else. Otherwise one entry is added, and its record is decided by the tree of the material:
one that can be translated (`Session.Translates`) gives its translation, one that cannot
(`Session.FailsOn`) gives the placeholder and a warning about just this failure, and without a tree
the record is flat. The stages of a translation come down to one outcome (`NodeTree.surface_eq`),
and a warning tells of a failure because surfaces themselves report nothing but remarks
(`NodeTree.surface_plain`).
-/

namespace ShadingExport

open Translation

/-! ## The stages of a translation -/

namespace NodeTree

variable {tree : NodeTree} {graph : Graph} {node : ShadingNode} {error : TranslationError}

/-- A tree that makes no graph fails with its defect. -/
theorem surface_eq_fail_of_ofTree (hgraph : Graph.ofTree tree = .error error) (mode : GlossyMode)
    (name : String) : tree.surface mode name = fail error := by
  unfold surface
  simp only [liftM_except, hgraph, ofExcept_error_bind]

/-- A graph without a surface fails with what it lacks. -/
theorem surface_eq_fail_of_surfaceNode (hgraph : Graph.ofTree tree = .ok graph)
    (hnode : graph.surfaceNode = .error error) (mode : GlossyMode) (name : String) :
    tree.surface mode name = fail error := by
  unfold surface
  simp only [liftM_except, hgraph, ofExcept_ok_bind, hnode, ofExcept_error_bind]

/-- **The translation of a tree** is that of the node which feeds its output. -/
theorem surface_eq (hgraph : Graph.ofTree tree = .ok graph) (hnode : graph.surfaceNode = .ok node)
    (mode : GlossyMode) (name : String) :
    tree.surface mode name = graph.surface mode node (some name) := by
  unfold surface
  simp only [liftM_except, hgraph, ofExcept_ok_bind, hnode]

end NodeTree

/-- Without an output there is no surface node. -/
theorem Graph.surfaceNode_of_output?_eq_none {graph : Graph} (houtput : graph.output? = none) :
    graph.surfaceNode = .error (.unsupportedFeature .noOutput) := by
  unfold surfaceNode
  rw [houtput]

/-- If nothing feeds the surface of the output, there is no surface node. -/
theorem Graph.surfaceNode_of_feeding?_eq_none {graph : Graph} {output : ShadingNode}
    (houtput : graph.output? = some output) (hsurface : graph.feeding? output "Surface" = none) :
    graph.surfaceNode = .error (.unsupportedFeature .unlinkedSurface) := by
  unfold surfaceNode
  simp only [houtput, hsurface]

namespace Session

variable {session : Session} {material : HostMaterial} {tree : NodeTree} {name : String}

/-- A session translates a tree: the tree makes a graph with an output, a node feeds the surface of
the output, and the session translates this node. -/
inductive Translates (session : Session) (tree : NodeTree) (name : String)
    (record : MaterialRecord String) : Prop where
  /-- All stages succeed. -/
  | surface {graph : Graph} {output node : ShadingNode} (hgraph : Graph.ofTree tree = .ok graph)
    (houtput : graph.output? = some output)
    (hsurface : graph.feeding? output "Surface" = some node)
    (htranslated : (session.surface graph node (some name)).1 = .ok record)

/-- A session fails on a tree, at one of the stages of its translation. -/
inductive FailsOn (session : Session) (tree : NodeTree) (name : String) :
    TranslationError → Prop where
  /-- The tree makes no graph. -/
  | graph {error : TranslationError} (hgraph : Graph.ofTree tree = .error error) :
    FailsOn session tree name error
  /-- The graph has no output. -/
  | output {graph : Graph} (hgraph : Graph.ofTree tree = .ok graph)
    (houtput : graph.output? = none) :
    FailsOn session tree name (.unsupportedFeature .noOutput)
  /-- Nothing feeds the surface of the output. -/
  | surface {graph : Graph} {output : ShadingNode} (hgraph : Graph.ofTree tree = .ok graph)
    (houtput : graph.output? = some output) (hsurface : graph.feeding? output "Surface" = none) :
    FailsOn session tree name (.unsupportedFeature .unlinkedSurface)
  /-- The session does not translate the node that feeds it. -/
  | translation {graph : Graph} {output node : ShadingNode} {error : TranslationError}
    (hgraph : Graph.ofTree tree = .ok graph) (houtput : graph.output? = some output)
    (hsurface : graph.feeding? output "Surface" = some node)
    (hfailed : (session.surface graph node (some name)).1 = .error error) :
    FailsOn session tree name error

/-- **A tree is translated or it fails.** -/
theorem translates_or_failsOn (session : Session) (tree : NodeTree) (name : String) :
    (∃ record, session.Translates tree name record) ∨ ∃ error, session.FailsOn tree name error := by
  cases hgraph : Graph.ofTree tree with
  | error error => exact .inr ⟨error, .graph hgraph⟩
  | ok graph =>
    cases houtput : graph.output? with
    | none => exact .inr ⟨_, .output hgraph houtput⟩
    | some output =>
      cases hsurface : graph.feeding? output "Surface" with
      | none => exact .inr ⟨_, .surface hgraph houtput hsurface⟩
      | some node =>
        cases houtcome : (session.surface graph node (some name)).1 with
        | error error => exact .inr ⟨error, .translation hgraph houtput hsurface houtcome⟩
        | ok record => exact .inl ⟨record, .surface hgraph houtput hsurface houtcome⟩

/-- What a session translates is the outcome for its glossy mode, with paths in place of images. -/
theorem Translates.outcome {record : MaterialRecord String}
    (h : session.Translates tree name record) :
    let translation := tree.surface session.settings.glossyMode name
    ∃ skeleton, translation.outcome = .ok skeleton ∧
      skeleton.map (session.perform translation.events).textures.path = record := by
  obtain ⟨hgraph, houtput, hsurface, htranslated⟩ := h
  have hnode := Graph.surfaceNode_eq_ok.mpr ⟨_, houtput, hsurface⟩
  rw [NodeTree.surface_eq hgraph hnode]
  exact surface_eq_ok_iff.mp htranslated

/-- What a session fails on has no other outcome for its glossy mode. -/
theorem FailsOn.outcome {error : TranslationError} (h : session.FailsOn tree name error) :
    (tree.surface session.settings.glossyMode name).outcome = .error error := by
  cases h with
  | graph hgraph => rw [NodeTree.surface_eq_fail_of_ofTree hgraph, outcome_fail]
  | output hgraph houtput =>
    have hnode := Graph.surfaceNode_of_output?_eq_none houtput
    rw [NodeTree.surface_eq_fail_of_surfaceNode hgraph hnode, outcome_fail]
  | surface hgraph houtput hsurface =>
    have hnode := Graph.surfaceNode_of_feeding?_eq_none houtput hsurface
    rw [NodeTree.surface_eq_fail_of_surfaceNode hgraph hnode, outcome_fail]
  | translation hgraph houtput hsurface hfailed =>
    have hnode := Graph.surfaceNode_eq_ok.mpr ⟨_, houtput, hsurface⟩
    rw [NodeTree.surface_eq hgraph hnode]
    exact surface_eq_error_iff.mp hfailed

end Session

/-! ## Records and warnings -/

/-- The warning about a failed material is one. -/
theorem Report.isMaterialFailure_materialFailed (name : String) (error : TranslationError) :
    (Report.materialFailed name error).IsMaterialFailure := by
  refine ⟨rfl, ?_⟩
  show _ <+: ("Export of material '" ++ name ++ _ ++ _ ++ _ ++ _).toList
  simp only [String.append_assoc]
  exact toList_isPrefix_append _ _

/-- What a session writes for a material, and what it reports on the way. -/
structure Session.Writes (session : Session) (material : HostMaterial)
    (record : MaterialRecord String) (reports : List Report) : Prop where
  /-- A tree that counts is translated or fails. -/
  decided : ∀ tree, material.activeTree? = some tree →
    (∃ translated, session.Translates tree (exportedName material.name) translated) ∨
      ∃ error, session.FailsOn tree (exportedName material.name) error
  /-- The translation of a tree is written, and no warning tells of a failure. -/
  translated : ∀ tree translated, material.activeTree? = some tree →
    session.Translates tree (exportedName material.name) translated →
      record = translated ∧ ∀ report ∈ reports, ¬ report.IsMaterialFailure
  /-- A failure is replaced by the placeholder. One warning tells of it, with the name of the
  material and the text of the error; mixtures nested too deep are never its cause. -/
  failed : ∀ tree error, material.activeTree? = some tree →
    session.FailsOn tree (exportedName material.name) error →
      record = placeholderMaterial material.name ∧ error ≠ .unsupportedFeature .cyclicMix ∧
        ∃ remarks failure, reports = remarks ++ [failure] ∧
          (∀ remark ∈ remarks, ¬ remark.IsMaterialFailure) ∧ failure.IsMaterialFailure ∧
          failure.message = s!"Export of material '{material.name}' failed: {error.message}. "
            ++ "Exporting a dummy material instead."
  /-- Without a tree that counts the color of the material is written, and nothing is reported. -/
  flat : material.activeTree? = none → reports = [] ∧
    ∀ color, material.diffuseColor.color? = some color →
      record = .flat (exportedName material.name) color

namespace Session

variable {session : Session} {material : HostMaterial}

/-- The record over paths that the translation of a material gives in a session. -/
def translated (session : Session) (material : HostMaterial) : MaterialRecord String :=
  let settled := material.translate session.settings.glossyMode
  settled.value.map (session.perform settled.events).textures.path

/-- **What a session writes for a material** is decided by its tree. -/
theorem writes_translated
    (hacyclic : ∀ tree graph, material.activeTree? = some tree → Graph.ofTree tree = .ok graph →
      graph.MixAcyclic) (session : Session) :
    session.Writes material (session.translated material)
      (reportsOf (material.translate session.settings.glossyMode).events) := by
  have hplain : ∀ tree, material.activeTree? = some tree →
      (tree.surface session.settings.glossyMode (exportedName material.name)).Plain :=
    fun tree htree => tree.surface_plain (fun graph => hacyclic tree graph htree) _ _
  unfold translated HostMaterial.translate
  refine ⟨fun tree _ => session.translates_or_failsOn tree _, ?_, ?_, ?_⟩
  · intro tree translated htree htranslates
    obtain ⟨skeleton, houtcome, rfl⟩ := htranslates.outcome
    simp only [htree, settle_of_ok _ houtcome, true_and]
    -- All that is reported are the remarks of the translation.
    intro report hreport
    exact ((hplain tree htree).remarks report hreport).not_isMaterialFailure
  · intro tree error htree hfails
    have houtcome := hfails.outcome
    -- What was remarked before the failure stays, and the warning comes last.
    simp only [htree, settle_of_error _ houtcome, reportsOf_append, reportsOf_report]
    refine ⟨rfl, (hplain tree htree).bounded error houtcome, _, _, rfl, fun remark hremark => ?_,
      Report.isMaterialFailure_materialFailed _ _, rfl⟩
    exact ((hplain tree htree).remarks remark hremark).not_isMaterialFailure
  · intro hnone
    simp only [hnone, reportsOf_nil, true_and]
    intro color hcolor
    rw [HostMaterial.flatRecord, hcolor]
    rfl

/-! ## Writing a material -/

/-- A material that is refused leaves one report at most. -/
theorem writeTranslation_of_mem_names
    (htaken : exportedName material.name ∈ session.registry.names) :
    ∃ event, imagesOf [event] = [] ∧
      session.writeTranslation material = (false, session.perform [event]) := by
  obtain ⟨entry, hentry⟩ := Registry.exists_find?_of_mem_names htaken
  exact ⟨_, material.imagesOf_refusal entry.host, accept_of_find?_eq_some hentry⟩

/-- A material whose exported name is free is registered under it. -/
theorem writeTranslation_of_notMem_names
    (hfree : exportedName material.name ∉ session.registry.names) :
    session.writeTranslation material =
      (true, { session.perform (material.translate session.settings.glossyMode).events with
        registry := ⟨session.registry.entries ++
          [⟨exportedName material.name, some material.name, session.translated material⟩]⟩ }) :=
  accept_of_notMem_names hfree

/-- **Writing a material recovers from every failure**: whatever the session, a material without
mixtures that contain themselves is written exactly if its exported name is free. If the name is
taken, the registry and the textures stay, and there is one report at most. If it is free, one entry
is added at the end, under this name and with the name in the host; its record is the translation of
the material, the placeholder of one that fails, told by exactly one warning, or the flat color of
one without a tree. -/
theorem writeTranslation_recovers
    (hacyclic : ∀ tree graph, material.activeTree? = some tree → Graph.ofTree tree = .ok graph →
      graph.MixAcyclic) (session : Session) :
    let written := (session.writeTranslation material).1
    let after := (session.writeTranslation material).2
    (written = true ↔ exportedName material.name ∉ session.registry.names) ∧
      after.settings = session.settings ∧
      ∃ reports, after.reports = session.reports ++ reports ∧
        (written = false → after.registry = session.registry ∧
          after.textures = session.textures ∧ reports.length ≤ 1) ∧
        (written = true → ∃ record, session.Writes material record reports ∧
          after.registry.entries = session.registry.entries ++
            [⟨exportedName material.name, some material.name, record⟩]) := by
  dsimp only
  by_cases htaken : exportedName material.name ∈ session.registry.names
  · obtain ⟨event, himages, hwritten⟩ := writeTranslation_of_mem_names htaken
    rw [hwritten]
    -- A refusal is a single event, and asks for no image.
    refine ⟨iff_of_false Bool.false_ne_true (not_not.mpr htaken), rfl, reportsOf [event],
      session.reports_perform [event], fun _ => ⟨rfl, ?_, List.length_filterMap_le _ _⟩, nofun⟩
    rw [textures_perform, himages]
    rfl
  · rw [writeTranslation_of_notMem_names htaken]
    exact ⟨iff_of_true rfl htaken, rfl, _, session.reports_perform _, nofun,
      fun _ => ⟨_, writes_translated hacyclic session, rfl⟩⟩

end Session

/-- Rough paint beside velvet, which is no surface that the renderer knows. -/
def NodeTree.halfPainted : NodeTree where
  nodes := [
    { id := "out", idname := "ShaderNodeOutputMaterial" },
    { id := "mix", idname := "ShaderNodeMixShader", inputs := .ofList [("Fac", .scalar 0.5)] },
    { id := "paint", idname := "ShaderNodeBsdfDiffuse" },
    { id := "grit", idname := "ShaderNodeTexImage", image := some { name := "grit.png" } },
    { id := "cloth", idname := "ShaderNodeBsdfVelvet" }]
  connections := [
    { source := ⟨"mix", "Shader"⟩, target := ⟨"out", "Surface"⟩ },
    { source := ⟨"paint", "BSDF"⟩, target := ⟨"mix", "Shader"⟩ },
    { source := ⟨"cloth", "BSDF"⟩, target := ⟨"mix", "Shader_001"⟩ },
    { source := ⟨"grit", "Color"⟩, target := ⟨"paint", "Roughness"⟩ }]

/-- The material of the tree. -/
def HostMaterial.oldChair : HostMaterial where
  name := "Old Chair"
  nodeTree := some .halfPainted

namespace Session

/-- The chair becomes a placeholder, which one warning tells after the remark about the paint. -/
theorem writeTranslation_recovers_oldChair :
    (∀ tree graph, HostMaterial.oldChair.activeTree? = some tree → Graph.ofTree tree = .ok graph →
      graph.MixAcyclic) ∧
      let after := ((start {}).writeTranslation .oldChair).2
      after.registry.entries =
        [⟨"Old_Chair", some "Old Chair", placeholderMaterial "Old Chair"⟩] ∧
        ∃ failure, after.reports = [.roughDiffuse "paint", failure] ∧ failure.IsMaterialFailure := by
  have hacyclic : ∀ tree graph, HostMaterial.oldChair.activeTree? = some tree →
      Graph.ofTree tree = .ok graph → graph.MixAcyclic := by
    rintro tree graph ⟨⟩ ⟨⟩
    exact Graph.mixAcyclic_of_sides (by decide +kernel)
  have hreported : ((start {}).writeTranslation .oldChair).2.reports = [.roughDiffuse "paint"] ++
      [.materialFailed "Old Chair"
        (.unsupportedNode (.unsupported "ShaderNodeBsdfVelvet") .surface)] :=
    rfl
  have hname : exportedName "Old Chair" = "Old_Chair" := by decide +kernel
  have hfails : (start {}).FailsOn .halfPainted (exportedName "Old Chair")
      (.unsupportedNode (.unsupported "ShaderNodeBsdfVelvet") .surface) :=
    .translation rfl rfl rfl rfl
  obtain ⟨hwritten, -, reports, hreports, -, hwrites⟩ :=
    writeTranslation_recovers hacyclic (start {})
  obtain ⟨record, hrecord, hentries⟩ := hwrites (hwritten.mpr List.not_mem_nil)
  obtain ⟨rfl, -, remarks, failure, rfl, -, hfailure, -⟩ := hrecord.failed _ _ rfl hfails
  refine ⟨hacyclic, ?_, failure, ?_, hfailure⟩
  · rw [hentries, ← hname]
    rfl
  · rw [hreported, ← List.append_assoc] at hreports
    obtain ⟨-, hlast⟩ := List.append_inj' hreports rfl
    rw [hreported, hlast]
    rfl

end Session

end ShadingExport
