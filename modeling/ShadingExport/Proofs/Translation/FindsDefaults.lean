import ShadingExport.Proofs.Graph.Completeness
import ShadingExport.Proofs.Surface.Locality
import ShadingExport.Proofs.Translation.Failure

/-!
# Surfaces find their defaults

An error lacks a default (`TranslationError.LacksDefault`) if an input is missing, or its literal is.
In a complete graph whose links resolve, no translator of surfaces has such an error
(`Graph.surfaceWithin_findsDefaults`): what it looks for by name is needed, and what it reads
without a link has a literal. The statement is put together translator by translator.
-/

namespace ShadingExport

open Translation

/-! ## Errors that lack a default -/

/-- An input is missing, or its literal is. -/
def TranslationError.LacksDefault : TranslationError → Prop
  | .missingInput .. => True
  | .unsupportedFeature (.noLiteral _) => True
  | _ => False

/-- No failure of the translation is for want of a default. -/
def Translation.FindsDefaults {α : Type} (translation : Translation α) : Prop :=
  translation.FailsOnly fun error => ¬ error.LacksDefault

/-! ## Readers -/

namespace Socket

variable {socket : Socket} (hdefault : socket.default.isSome)
include hdefault

/-- Where there is a literal, only its shape can be wrong. -/
theorem getNumber_findsDefaults : (ofExcept socket.getNumber).FindsDefaults := by
  intro error (h : socket.getNumber = .error error)
  obtain ⟨literal, hliteral⟩ := Option.isSome_iff_exists.mp hdefault
  unfold getNumber getLiteral at h
  simp only [hliteral, bind, Except.bind] at h
  split at h <;> cases h
  exact not_false

theorem getColor_findsDefaults : (ofExcept socket.getColor).FindsDefaults := by
  intro error (h : socket.getColor = .error error)
  obtain ⟨literal, hliteral⟩ := Option.isSome_iff_exists.mp hdefault
  unfold getColor getLiteral at h
  simp only [hliteral, bind, Except.bind] at h
  split at h <;> cases h
  exact not_false

end Socket

namespace ShadingNode

variable {node : ShadingNode}

theorem getImage_findsDefaults : (ofExcept node.getImage).FindsDefaults := by
  intro error (h : node.getImage = .error error)
  unfold getImage at h
  split at h <;> cases h
  exact not_false

theorem constantColor_findsDefaults : (ofExcept node.constantColor).FindsDefaults := by
  intro error (h : node.constantColor = .error error)
  unfold constantColor at h
  split at h <;> cases h
  exact not_false

theorem distribution_findsDefaults : (ofExcept node.distribution).FindsDefaults := by
  intro error (h : node.distribution = .error error)
  unfold distribution Distribution.parse at h
  split at h <;> cases h
  exact not_false

theorem getInput_eq_error {name : String} {error : TranslationError} :
    node.getInput name = .error error ↔
      node.input? name = none ∧ error = .missingInput node.id name := by
  unfold getInput
  cases node.input? name <;> simp [eq_comm]

theorem texture_findsDefaults (node : ShadingNode) : node.texture.FindsDefaults := by
  unfold texture
  simp only [FindsDefaults, liftM_except, failsOnly_bind, failsOnly_ofExcept, failsOnly_emit,
    true_and]
  refine ⟨getImage_findsDefaults, fun image _ _ _ => ?_⟩
  exact failsOnly_ite (fun _ => failsOnly_report_bind.mpr failsOnly_pure) fun _ => failsOnly_pure

end ShadingNode

namespace Graph

/-- A tree that makes no graph is malformed. -/
theorem ofTree_findsDefaults (tree : NodeTree) : (ofExcept (ofTree tree)).FindsDefaults := by
  intro error (h : ofTree tree = .error error)
  unfold ofTree at h
  split at h <;> cases h
  exact not_false

theorem surfaceNode_findsDefaults (graph : Graph) :
    (ofExcept graph.surfaceNode).FindsDefaults := by
  intro error (h : graph.surfaceNode = .error error)
  unfold surfaceNode at h
  split at h
  · cases h
    exact not_false
  · split at h <;> cases h
    exact not_false

/-! ## Translators of a complete graph -/

variable {graph : Graph} {node : ShadingNode} {mode : GlossyMode}

section Inputs

variable (hcomplete : graph.Complete) (hnode : node ∈ graph.nodes)
include hcomplete hnode

/-- A sequence that starts by looking for a needed input fails as what follows it. -/
theorem failsOnly_getInput_bind {α : Type} {allowed : TranslationError → Prop} {name : String}
    (hname : name ∈ node.kind.neededInputs) {rest : Socket → Translation α}
    (hrest : ∀ socket, node.input? name = some socket → socket.default.isSome →
      (rest socket).FailsOnly allowed) :
    (ofExcept (node.getInput name) >>= rest).FailsOnly allowed := by
  obtain ⟨socket, hsocket, hdefault⟩ := exists_input_of_needed hcomplete hnode hname
  have hok : node.getInput name = .ok socket := ShadingNode.getInput_eq_ok.mpr hsocket
  rw [hok, failsOnly_bind]
  refine ⟨?_, ?_⟩
  · rintro _ ⟨⟩
  · rintro _ ⟨⟩
    exact hrest socket hsocket hdefault

/-- The index of refraction is a literal even where it is linked. -/
theorem refractionIndex_findsDefaults (hior : "IOR" ∈ node.kind.neededInputs) :
    node.refractionIndex.FindsDefaults := by
  refine failsOnly_getInput_bind hcomplete hnode hior fun socket _ hdefault => ?_
  have hnumber : (ofExcept socket.getNumber).FindsDefaults :=
    socket.getNumber_findsDefaults hdefault
  exact failsOnly_ite (fun _ => failsOnly_report_bind.mpr hnumber) fun _ => hnumber

end Inputs

/-- The texture of a normal map is looked for behind a color that is needed. -/
theorem tangentNormals_findsDefaults (hcomplete : graph.Complete) (hnode : node ∈ graph.nodes)
    (hkind : node.kind = .normalMap) : (graph.tangentNormals node).FindsDefaults := by
  unfold tangentNormals
  refine failsOnly_ite (fun _ => failsOnly_fail.mpr not_false) fun _ => ?_
  refine failsOnly_getInput_bind hcomplete hnode (by rw [hkind]; decide) fun socket _ _ => ?_
  cases graph.upstream? socket with
  | none => exact failsOnly_fail.mpr not_false
  | some source =>
    refine failsOnly_ite (fun _ => ?_) fun _ => failsOnly_fail.mpr not_false
    simp only [bind_pure_comp, failsOnly_map]
    exact source.texture_findsDefaults

section Sockets

variable (hlinks : graph.LinksResolve) (hcomplete : graph.Complete) (hnode : node ∈ graph.nodes)
  {name : String} {socket : Socket} (hsocket : node.input? name = some socket)
include hlinks hnode hsocket

/-- An input that no node feeds has a literal. -/
theorem default_isSome_of_upstream?_eq_none (h : graph.upstream? socket = none) :
    socket.default.isSome :=
  ShadingNode.default_isSome_of_link_eq_none hsocket
    ((upstream?_eq_none_iff hlinks hnode hsocket).mp h)

include hcomplete

theorem scalar_findsDefaults : (graph.scalar socket).FindsDefaults := by
  unfold scalar
  simp only [FindsDefaults, bind_pure_comp, liftM_except]
  cases hsource : graph.upstream? socket with
  | none =>
    rw [failsOnly_map]
    exact socket.getNumber_findsDefaults
      (default_isSome_of_upstream?_eq_none hlinks hnode hsocket hsource)
  | some source =>
    dsimp only
    split
    · rw [failsOnly_map]
      exact source.texture_findsDefaults
    · next hkind =>
      rw [failsOnly_map]
      exact refractionIndex_findsDefaults hcomplete (mem_nodes_of_upstream? hsource)
        (by rw [hkind]; decide)
    · exact failsOnly_fail.mpr not_false

theorem color_findsDefaults : (graph.color socket).FindsDefaults := by
  unfold color
  simp only [FindsDefaults, bind_pure_comp, liftM_except]
  cases hsource : graph.upstream? socket with
  | none =>
    rw [failsOnly_map]
    exact socket.getColor_findsDefaults
      (default_isSome_of_upstream?_eq_none hlinks hnode hsocket hsource)
  | some source =>
    dsimp only
    split
    · rw [failsOnly_map]
      exact source.texture_findsDefaults
    · next hkind =>
      exact tangentNormals_findsDefaults hcomplete (mem_nodes_of_upstream? hsource) hkind
    · rw [failsOnly_map]
      exact source.constantColor_findsDefaults
    · exact failsOnly_fail.mpr not_false

omit hlinks hnode hsocket in
/-- The strength of a normal map is needed, and counts only where it is not linked. -/
theorem normalStrength_findsDefaults (normal : Socket) :
    (graph.normalStrength normal).FindsDefaults := by
  unfold normalStrength
  cases hsource : graph.upstream? normal with
  | none => exact failsOnly_pure
  | some source =>
    refine failsOnly_ite (fun hkind => ?_) fun _ => failsOnly_pure
    refine failsOnly_getInput_bind hcomplete (mem_nodes_of_upstream? hsource)
      (by rw [hkind]; decide) fun strength _ hdefault => ?_
    refine failsOnly_ite (fun _ => failsOnly_fail.mpr not_false) fun _ => ?_
    simp only [bind_pure_comp, liftM_except, failsOnly_map]
    exact strength.getNumber_findsDefaults hdefault

theorem withNormals_findsDefaults (base : MaterialRecord Image) :
    (graph.withNormals base socket).FindsDefaults := by
  unfold withNormals
  simp only [FindsDefaults, bind_pure_comp, failsOnly_bind, failsOnly_map]
  exact ⟨color_findsDefaults hlinks hcomplete hnode hsocket,
    fun _ _ => normalStrength_findsDefaults hcomplete socket⟩

end Sockets

section Surfaces

variable (hlinks : graph.LinksResolve) (hcomplete : graph.Complete) (hnode : node ∈ graph.nodes)
include hlinks hcomplete hnode

theorem optionalColor_findsDefaults (name : String) :
    (graph.optionalColor node name).FindsDefaults := by
  unfold optionalColor
  split
  · exact failsOnly_pure
  · next socket hsocket =>
    simp only [FindsDefaults, bind_pure_comp, failsOnly_map]
    exact color_findsDefaults hlinks hcomplete hnode hsocket

theorem roughness_findsDefaults (hname : roughnessName ∈ node.kind.neededInputs) :
    (graph.roughness node).FindsDefaults :=
  failsOnly_getInput_bind hcomplete hnode hname fun _ hsocket _ =>
    scalar_findsDefaults hlinks hcomplete hnode hsocket

theorem diffuse_findsDefaults : (graph.diffuse node).FindsDefaults := by
  unfold diffuse
  simp only [bind_pure_comp]
  have hcolor : (Material.lambertian <$> graph.optionalColor node "Color" :
      Translation (Material Image (MaterialRecord Image))).FindsDefaults :=
    failsOnly_map.mpr (optionalColor_findsDefaults hlinks hcomplete hnode "Color")
  exact failsOnly_ite (fun _ => failsOnly_report_bind.mpr hcolor) fun _ => hcolor

section Glossy

variable (hkind : node.kind = .glossy) {color : Socket} (hcolor : node.input? "Color" = some color)
  (distribution : Option Microfacet)
include hkind hcolor

theorem glossyConductor_findsDefaults :
    (graph.glossyConductor node color distribution).FindsDefaults := by
  have halbedo := color_findsDefaults hlinks hcomplete hnode hcolor
  unfold glossyConductor
  simp only [bind_pure_comp]
  split
  · rw [FindsDefaults, failsOnly_bind]
    exact ⟨roughness_findsDefaults hlinks hcomplete hnode (by rw [hkind]; decide),
      fun _ _ => failsOnly_map.mpr halbedo⟩
  · exact failsOnly_map.mpr halbedo

theorem glossyMetal_findsDefaults :
    (graph.glossyMetal node color distribution).FindsDefaults := by
  have halbedo := color_findsDefaults hlinks hcomplete hnode hcolor
  unfold glossyMetal
  simp only [bind_pure_comp]
  split
  · rw [FindsDefaults, failsOnly_bind]
    exact ⟨roughness_findsDefaults hlinks hcomplete hnode (by rw [hkind]; decide),
      fun _ _ => failsOnly_map.mpr halbedo⟩
  · rw [pure_bind]
    exact failsOnly_map.mpr halbedo

theorem glossyExponent_findsDefaults
    (material : Float → Microfacet → VaryingColor Image → Material Image (MaterialRecord Image)) :
    (graph.glossyExponent node color distribution material).FindsDefaults := by
  have halbedo := color_findsDefaults hlinks hcomplete hnode hcolor
  refine failsOnly_getInput_bind hcomplete hnode (by rw [hkind]; decide)
    fun roughness _ hdefault => ?_
  refine failsOnly_ite (fun _ => failsOnly_fail.mpr not_false) fun _ => ?_
  simp only [liftM_except, failsOnly_bind]
  refine ⟨roughness.getNumber_findsDefaults hdefault,
    fun _ _ => ⟨halbedo, fun _ _ => ?_⟩⟩
  -- Which material the exponent gives decides nothing.
  split
  · exact failsOnly_ite (fun _ => failsOnly_pure) fun _ => failsOnly_pure
  · exact failsOnly_pure

end Glossy

theorem glossy_findsDefaults (hkind : node.kind = .glossy) (mode : GlossyMode) :
    (graph.glossy mode node).FindsDefaults := by
  unfold glossy
  simp only [FindsDefaults, liftM_except]
  rw [failsOnly_bind]
  refine ⟨node.distribution_findsDefaults,
    fun distribution _ => ?_⟩
  refine failsOnly_getInput_bind hcomplete hnode (by rw [hkind]; decide) fun color hcolor _ => ?_
  cases mode with
  | roughConductor => exact glossyConductor_findsDefaults hlinks hcomplete hnode hkind hcolor _
  | metal => exact glossyMetal_findsDefaults hlinks hcomplete hnode hkind hcolor _
  | blinnPhong => exact glossyExponent_findsDefaults hlinks hcomplete hnode hkind hcolor _ _
  | phong => exact glossyExponent_findsDefaults hlinks hcomplete hnode hkind hcolor _ _

theorem glass_findsDefaults (hkind : node.kind = .glass) : (graph.glass node).FindsDefaults := by
  unfold glass
  simp only [FindsDefaults, liftM_except, failsOnly_bind]
  refine ⟨refractionIndex_findsDefaults hcomplete hnode (by rw [hkind]; decide), fun _ _ =>
    ⟨roughness_findsDefaults hlinks hcomplete hnode (by rw [hkind]; decide), fun _ _ =>
      ⟨node.distribution_findsDefaults, fun _ _ =>
        ⟨optionalColor_findsDefaults hlinks hcomplete hnode "Color", fun _ _ => ?_⟩⟩⟩⟩
  split
  · exact failsOnly_pure
  · exact failsOnly_ite (fun _ => failsOnly_pure) fun _ => failsOnly_pure

omit hlinks in
theorem emission_findsDefaults (hkind : node.kind = .emission) : node.emission.FindsDefaults := by
  unfold ShadingNode.emission
  refine failsOnly_getInput_bind hcomplete hnode (by rw [hkind]; decide)
    fun strength _ hstrength => ?_
  refine failsOnly_ite (fun _ => failsOnly_fail.mpr not_false) fun _ => ?_
  refine failsOnly_getInput_bind hcomplete hnode (by rw [hkind]; decide) fun color _ hcolor => ?_
  refine failsOnly_ite (fun _ => failsOnly_fail.mpr not_false) fun _ => ?_
  simp only [liftM_except, failsOnly_bind]
  refine ⟨color.getColor_findsDefaults hcolor, fun _ _ =>
    ⟨strength.getNumber_findsDefaults hstrength, fun _ _ => ?_⟩⟩
  exact failsOnly_ite (fun _ => failsOnly_report_bind.mpr failsOnly_pure) fun _ => failsOnly_pure

section Sides

variable {side : ShadingNode → Translation (MaterialRecord Image)}
  (hside : ∀ child ∈ graph.nodes, (side child).FindsDefaults)
include hside

theorem blend_findsDefaults (hkind : node.kind = .mix) : (graph.blend side node).FindsDefaults := by
  unfold blend
  split
  · next first second hfirst hsecond =>
    refine failsOnly_getInput_bind hcomplete hnode (by rw [hkind]; decide) fun fac hfac _ => ?_
    simp only [bind_pure_comp, failsOnly_bind, failsOnly_map]
    exact ⟨scalar_findsDefaults hlinks hcomplete hnode hfac, fun _ _ =>
      ⟨hside first (mem_nodes_of_feeding? hfirst), fun _ _ =>
        hside second (mem_nodes_of_feeding? hsecond)⟩⟩
  · exact failsOnly_fail.mpr not_false

theorem material_findsDefaults : (graph.material mode side node).FindsDefaults := by
  unfold material
  split
  · exact diffuse_findsDefaults hlinks hcomplete hnode
  · next hkind => exact glossy_findsDefaults hlinks hcomplete hnode hkind mode
  · next hkind => exact glass_findsDefaults hlinks hcomplete hnode hkind
  · next hkind => exact emission_findsDefaults hcomplete hnode hkind
  · next hkind => exact blend_findsDefaults hlinks hcomplete hnode hside hkind
  · exact failsOnly_fail.mpr not_false

end Sides

theorem perturbed_findsDefaults (record : MaterialRecord Image) :
    (graph.perturbed node record).FindsDefaults := by
  unfold perturbed
  split
  · next normal hnormal =>
    exact failsOnly_ite (fun _ => withNormals_findsDefaults hlinks hcomplete hnode hnormal record)
      fun _ => failsOnly_pure
  · exact failsOnly_pure

theorem surfaceStep_findsDefaults {side : ShadingNode → Translation (MaterialRecord Image)}
    (hside : ∀ child ∈ graph.nodes, (side child).FindsDefaults) (name : Option String) :
    (graph.surfaceStep mode side node name).FindsDefaults := by
  unfold surfaceStep
  simp only [FindsDefaults, failsOnly_bind, failsOnly_emit, true_and]
  exact fun _ _ => ⟨material_findsDefaults hlinks hcomplete hnode hside,
    fun material _ => perturbed_findsDefaults hlinks hcomplete hnode _⟩

/-- Induction on the bound: the sides of a mixture are nodes of the graph, translated with a smaller
one; a bound that is used up is another error. -/
theorem surfaceWithin_findsDefaults (depth : Nat) (name : Option String) :
    (graph.surfaceWithin mode depth node name).FindsDefaults := by
  induction depth generalizing node name with
  | zero => exact failsOnly_fail.mpr not_false
  | succ depth ih =>
    exact surfaceStep_findsDefaults hlinks hcomplete hnode (fun child hchild => ih hchild none) name

end Surfaces

end Graph

end ShadingExport
