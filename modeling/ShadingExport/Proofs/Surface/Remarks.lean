import ShadingExport.Proofs.Surface.Locality
import ShadingExport.Proofs.Translation.Failure
import ShadingExport.Proofs.Translation.Reports

/-!
# What surfaces remark, and how deep they are

The translation of a surface remarks what it ignores or replaces, and reports nothing else, however
it ends. No remark begins like the warning about a failed material, so that this one is told by its
text (`Report.IsRemark.not_isMaterialFailure`). Where no mixture contains itself, the translation
does not fail for mixtures that are nested too deep either. Both are shown of one translator after
the other (`Translation.Plain`), and of surfaces by induction over mixtures
(`NodeTree.surface_plain`).
-/

namespace ShadingExport

open Translation

/-! ## Remarks and failures -/

/-- The report is a remark about something that the translation of a node ignores or replaces. -/
def Report.IsRemark : Report → Prop
  | .roughDiffuse _ => True
  | .texturedIor => True
  | .zeroEmission _ => True
  | .colorSpace _ _ => True
  | _ => False

/-- How the warning about a failed material begins. -/
def materialFailureBeginning : String := "Export of material '"

/-- The report is a warning about a failed material. -/
def Report.IsMaterialFailure (report : Report) : Prop :=
  report.severity = .warning ∧ report.Begins materialFailureBeginning

/-- A text that begins otherwise does not begin in a given way. -/
theorem not_isPrefix_append {beginning other : List Char} (hother : ¬ beginning <+: other)
    (hbeginning : ¬ other <+: beginning) (rest : List Char) : ¬ beginning <+: other ++ rest := by
  intro h
  rcases List.prefix_or_prefix_of_prefix h (List.prefix_append other rest) with h | h
  · exact hother h
  · exact hbeginning h

/-- **No remark is taken for a failure.** -/
theorem Report.IsRemark.not_isMaterialFailure {report : Report} (h : report.IsRemark) :
    ¬ report.IsMaterialFailure := by
  rintro ⟨-, hbegins⟩
  cases report with
  | texturedIor => exact absurd hbegins (by decide)
  | roughDiffuse node =>
    refine absurd hbegins ?_
    show ¬ _ <+: ("Rough diffuse BSDF '" ++ node ++ _).toList
    rw [String.append_assoc, String.toList_append]
    exact not_isPrefix_append (by decide) (by decide) _
  | zeroEmission node =>
    refine absurd hbegins ?_
    show ¬ _ <+: ("Emitter '" ++ node ++ _ ++ _).toList
    rw [String.append_assoc, String.append_assoc, String.toList_append]
    exact not_isPrefix_append (by decide) (by decide) _
  | colorSpace image colorspace =>
    refine absurd hbegins ?_
    show ¬ _ <+: ("Texture '" ++ image ++ _ ++ colorspace ++ _ ++ _).toList
    rw [String.append_assoc, String.append_assoc, String.append_assoc, String.append_assoc,
      String.toList_append]
    exact not_isPrefix_append (by decide) (by decide) _
  | writingDefault | writing | noWorld | zeroStrength | zeroRadiance | worldWithoutOutput
  | worldFailed | materialFailed | nameTaken | nameReserved | unknownMaterial => exact h.elim

/-! ## Plain translations -/

/-- The translation reports remarks alone, and mixtures that contain each other are not why it
fails. -/
structure Translation.Plain {α : Type} (translation : Translation α) : Prop where
  /-- Every report is a remark. -/
  remarks : translation.ReportsOnly Report.IsRemark
  /-- The error is another one. -/
  bounded : translation.FailsOnly (· ≠ .unsupportedFeature .cyclicMix)

namespace Translation

variable {α β : Type}

theorem plain_pure {value : α} : (pure value : Translation α).Plain :=
  ⟨reportsOnly_pure, failsOnly_pure⟩

theorem plain_fail {error : TranslationError} (herror : error ≠ .unsupportedFeature .cyclicMix) :
    (fail error : Translation α).Plain :=
  ⟨reportsOnly_fail, failsOnly_fail.mpr herror⟩

theorem plain_ofExcept {outcome : Except TranslationError α}
    (h : ∀ error, outcome = .error error → error ≠ .unsupportedFeature .cyclicMix) :
    (ofExcept outcome).Plain :=
  ⟨reportsOnly_ofExcept, failsOnly_ofExcept.mpr h⟩

theorem plain_texture {image : Image} : (emit (.texture image)).Plain :=
  ⟨reportsOnly_texture, failsOnly_emit⟩

theorem plain_trace {trace : Trace} : (emit (.trace trace)).Plain :=
  ⟨reportsOnly_trace, failsOnly_emit⟩

/-- **A sequence is plain** if its steps are, the later ones on the values that they can get. -/
theorem plain_bind {first : Translation α} {next : α → Translation β} :
    (first >>= next).Plain ↔
      first.Plain ∧ ∀ value, first.outcome = .ok value → (next value).Plain := by
  constructor
  · rintro ⟨hremarks, hbounded⟩
    rw [reportsOnly_bind] at hremarks
    rw [failsOnly_bind] at hbounded
    exact ⟨⟨hremarks.1, hbounded.1⟩,
      fun value hvalue => ⟨hremarks.2 value hvalue, hbounded.2 value hvalue⟩⟩
  · rintro ⟨hfirst, hnext⟩
    exact ⟨reportsOnly_bind.mpr ⟨hfirst.remarks, fun value hvalue => (hnext value hvalue).remarks⟩,
      failsOnly_bind.mpr ⟨hfirst.bounded, fun value hvalue => (hnext value hvalue).bounded⟩⟩

/-- After a remark, a translation is as plain as what follows. -/
theorem plain_report_bind {remark : Report} {next : Unit → Translation α}
    (hremark : remark.IsRemark) (hnext : (next ()).Plain) : (report remark >>= next).Plain :=
  plain_bind.mpr ⟨⟨reportsOnly_report.mpr hremark, failsOnly_report⟩, fun _ _ => hnext⟩

theorem plain_map {first : Translation α} {function : α → β} :
    (function <$> first).Plain ↔ first.Plain := by
  rw [← bind_pure_comp, plain_bind]
  exact and_iff_left fun _ _ => plain_pure

/-- A choice between plain translations is plain. -/
theorem plain_ite {condition : Prop} [Decidable condition] {first second : Translation α}
    (hfirst : first.Plain) (hsecond : second.Plain) :
    (if condition then first else second).Plain := by
  split
  · exact hfirst
  · exact hsecond

end Translation

/-! ## Readers -/

theorem Socket.plain_getNumber {socket : Socket} : (ofExcept socket.getNumber).Plain := by
  refine plain_ofExcept fun error h => ?_
  unfold getNumber getLiteral at h
  cases hdefault : socket.default with
  | none =>
    rw [hdefault] at h
    cases h
    nofun
  | some literal =>
    simp only [hdefault, bind, Except.bind] at h
    split at h <;> cases h
    nofun

theorem Socket.plain_getColor {socket : Socket} : (ofExcept socket.getColor).Plain := by
  refine plain_ofExcept fun error h => ?_
  unfold getColor getLiteral at h
  cases hdefault : socket.default with
  | none =>
    rw [hdefault] at h
    cases h
    nofun
  | some literal =>
    simp only [hdefault, bind, Except.bind] at h
    split at h <;> cases h
    nofun

namespace ShadingNode

variable {node : ShadingNode}

theorem plain_getInput {name : String} : (ofExcept (node.getInput name)).Plain := by
  refine plain_ofExcept fun error h => ?_
  unfold getInput at h
  split at h <;> cases h
  nofun

theorem plain_getImage : (ofExcept node.getImage).Plain := by
  refine plain_ofExcept fun error h => ?_
  unfold getImage at h
  split at h <;> cases h
  nofun

theorem plain_constantColor : (ofExcept node.constantColor).Plain := by
  refine plain_ofExcept fun error h => ?_
  unfold constantColor at h
  split at h <;> cases h
  nofun

theorem plain_distribution : (ofExcept node.distribution).Plain := by
  refine plain_ofExcept fun error h => ?_
  unfold distribution Distribution.parse at h
  split at h <;> cases h
  nofun

/-! ## Sockets -/

theorem texture_plain (node : ShadingNode) : node.texture.Plain := by
  unfold texture
  simp only [liftM_except, plain_bind, plain_getImage, plain_texture, true_and]
  intro image _ _ _
  exact plain_ite (plain_report_bind trivial plain_pure) plain_pure

theorem refractionIndex_plain (node : ShadingNode) : node.refractionIndex.Plain := by
  unfold refractionIndex
  simp only [liftM_except, plain_bind, plain_getInput, true_and]
  intro socket _
  exact plain_ite (plain_report_bind trivial socket.plain_getNumber) socket.plain_getNumber

end ShadingNode

open ShadingNode Socket

namespace Graph

variable (graph : Graph) (node : ShadingNode)

theorem scalar_plain (socket : Socket) : (graph.scalar socket).Plain := by
  unfold scalar
  simp only [bind_pure_comp, liftM_except]
  split
  · exact plain_map.mpr plain_getNumber
  · split
    · exact plain_map.mpr (texture_plain _)
    · exact plain_map.mpr (refractionIndex_plain _)
    · exact plain_fail nofun

theorem tangentNormals_plain : (graph.tangentNormals node).Plain := by
  unfold tangentNormals
  refine plain_ite (plain_fail nofun) ?_
  simp only [bind_pure_comp, liftM_except, plain_bind, plain_getInput, true_and]
  intro socket _
  split
  · exact plain_fail nofun
  · exact plain_ite (plain_map.mpr (texture_plain _)) (plain_fail nofun)

theorem color_plain (socket : Socket) : (graph.color socket).Plain := by
  unfold color
  simp only [bind_pure_comp, liftM_except]
  split
  · exact plain_map.mpr plain_getColor
  · split
    · exact plain_map.mpr (texture_plain _)
    · exact tangentNormals_plain graph _
    · exact plain_map.mpr plain_constantColor
    · exact plain_fail nofun

theorem optionalColor_plain (name : String) : (graph.optionalColor node name).Plain := by
  unfold optionalColor
  simp only [bind_pure_comp]
  split
  · exact plain_pure
  · exact plain_map.mpr (color_plain graph _)

theorem normalStrength_plain (normal : Socket) : (graph.normalStrength normal).Plain := by
  unfold normalStrength
  split
  · exact plain_pure
  · refine plain_ite ?_ plain_pure
    simp only [bind_pure_comp, liftM_except, plain_bind, plain_getInput, true_and]
    intro strength _
    exact plain_ite (plain_fail nofun) (plain_map.mpr plain_getNumber)

theorem withNormals_plain (base : MaterialRecord Image) (normal : Socket) :
    (graph.withNormals base normal).Plain := by
  unfold withNormals
  simp only [bind_pure_comp, plain_bind, plain_map]
  exact ⟨color_plain graph normal, fun _ _ => normalStrength_plain graph normal⟩

/-! ## Surfaces -/

theorem roughness_plain : (graph.roughness node).Plain :=
  plain_bind.mpr ⟨plain_getInput, fun socket _ => scalar_plain graph socket⟩

theorem diffuse_plain : (graph.diffuse node).Plain := by
  have hcolor : (Material.lambertian <$> graph.optionalColor node "Color" :
      Translation (Material Image (MaterialRecord Image))).Plain :=
    plain_map.mpr (optionalColor_plain graph node "Color")
  unfold diffuse
  simp only [bind_pure_comp]
  exact plain_ite (plain_report_bind trivial hcolor) hcolor

section Glossy

variable (color : Socket) (distribution : Option Microfacet)

theorem glossyConductor_plain : (graph.glossyConductor node color distribution).Plain := by
  unfold glossyConductor
  simp only [bind_pure_comp]
  split
  · exact plain_bind.mpr ⟨roughness_plain graph node,
      fun _ _ => plain_map.mpr (color_plain graph color)⟩
  · exact plain_map.mpr (color_plain graph color)

theorem glossyMetal_plain : (graph.glossyMetal node color distribution).Plain := by
  unfold glossyMetal
  simp only [bind_pure_comp]
  split
  · exact plain_bind.mpr ⟨roughness_plain graph node,
      fun _ _ => plain_map.mpr (color_plain graph color)⟩
  · rw [pure_bind]
    exact plain_map.mpr (color_plain graph color)

theorem glossyExponent_plain
    (material : Float → Microfacet → VaryingColor Image → Material Image (MaterialRecord Image)) :
    (graph.glossyExponent node color distribution material).Plain := by
  unfold glossyExponent
  simp only [liftM_except, plain_bind, plain_getInput, true_and]
  intro socket _
  refine plain_ite (plain_fail nofun) ?_
  simp only [plain_bind, plain_getNumber, color_plain, true_and]
  intro _ _ _ _
  -- Which material the exponent gives decides nothing.
  split
  · exact plain_ite plain_pure plain_pure
  · exact plain_pure

end Glossy

theorem glossy_plain (mode : GlossyMode) : (graph.glossy mode node).Plain := by
  unfold glossy
  simp only [liftM_except, plain_bind, plain_distribution, plain_getInput, true_and]
  intro distribution _ color _
  cases mode with
  | roughConductor => exact glossyConductor_plain graph node color _
  | metal => exact glossyMetal_plain graph node color _
  | blinnPhong => exact glossyExponent_plain graph node color _ _
  | phong => exact glossyExponent_plain graph node color _ _

theorem glass_plain : (graph.glass node).Plain := by
  unfold glass
  simp only [liftM_except, plain_bind, refractionIndex_plain, roughness_plain, plain_distribution,
    optionalColor_plain, true_and]
  intro _ _ _ _ _ _ _ _
  split
  · exact plain_pure
  · exact plain_ite plain_pure plain_pure

theorem emission_plain : node.emission.Plain := by
  unfold ShadingNode.emission
  simp only [liftM_except, plain_bind, plain_getInput, true_and]
  intro strength _
  refine plain_ite (plain_fail nofun) ?_
  simp only [plain_bind, plain_getInput, true_and]
  intro color _
  refine plain_ite (plain_fail nofun) ?_
  simp only [plain_bind, plain_getColor, plain_getNumber, true_and]
  intro _ _ _ _
  exact plain_ite (plain_report_bind trivial plain_pure) plain_pure

section Sides

variable {side : ShadingNode → Translation (MaterialRecord Image)}
  (hside : ∀ child, graph.Mixes node child → (side child).Plain)
include hside

theorem blend_plain (hkind : node.kind = .mix) : (graph.blend side node).Plain := by
  unfold blend
  split
  · next first second hfirst hsecond =>
    simp only [liftM_except, bind_pure_comp, plain_bind, plain_map, plain_getInput, scalar_plain,
      true_and]
    exact fun _ _ _ _ => ⟨hside first ⟨hkind, .inl hfirst⟩,
      fun _ _ => hside second ⟨hkind, .inr hsecond⟩⟩
  · exact plain_fail nofun

theorem material_plain (mode : GlossyMode) : (graph.material mode side node).Plain := by
  unfold material
  split
  · exact diffuse_plain graph node
  · exact glossy_plain graph node mode
  · exact glass_plain graph node
  · exact emission_plain node
  · next hkind => exact blend_plain graph node hside hkind
  · exact plain_fail nofun

theorem surfaceStep_plain (mode : GlossyMode) (name : Option String) :
    (graph.surfaceStep mode side node name).Plain := by
  unfold surfaceStep
  simp only [plain_bind, plain_trace, true_and]
  refine fun _ _ => ⟨material_plain graph node hside mode, fun material _ => ?_⟩
  unfold perturbed
  split
  · exact plain_ite (withNormals_plain graph _ _) plain_pure
  · exact plain_pure

end Sides

/-- Induction over mixtures: the translation of a node is a step on those of its sides. -/
theorem surface_plain (hacyclic : graph.MixAcyclic) (mode : GlossyMode) (hnode : node ∈ graph.nodes)
    (name : Option String) : (graph.surface mode node name).Plain := by
  refine hacyclic.induction (motive := fun node => ∀ name, (graph.surface mode node name).Plain)
    (fun node hnode hsides name => ?_) node hnode name
  rw [surface_eq_surfaceStep hacyclic hnode]
  exact surfaceStep_plain graph node (fun child hchild => hsides child hchild none) mode name

/-- Defects of a tree are no mixtures. -/
theorem plain_ofTree {tree : NodeTree} : (ofExcept (ofTree tree)).Plain := by
  refine plain_ofExcept fun error h => ?_
  unfold ofTree at h
  split at h <;> cases h
  nofun

/-- A missing surface is no mixture. -/
theorem plain_surfaceNode : (ofExcept graph.surfaceNode).Plain := by
  refine plain_ofExcept fun error h => ?_
  unfold surfaceNode at h
  split at h
  · cases h
    nofun
  · split at h <;> cases h
    nofun

end Graph

/-- **The surface of a tree reports remarks alone**, whether it can be translated or not, and where
no mixture contains itself it does not fail for mixtures that contain each other. -/
theorem NodeTree.surface_plain {tree : NodeTree}
    (hacyclic : ∀ graph, Graph.ofTree tree = .ok graph → graph.MixAcyclic) (mode : GlossyMode)
    (name : String) : (tree.surface mode name).Plain := by
  unfold surface
  simp only [liftM_except, plain_bind, Graph.plain_ofTree, Graph.plain_surfaceNode, true_and]
  intro graph hgraph node hnode
  exact graph.surface_plain node (hacyclic graph hgraph) mode
    (Graph.mem_nodes_of_surfaceNode hnode) _

end ShadingExport
