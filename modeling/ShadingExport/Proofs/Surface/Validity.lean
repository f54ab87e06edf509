import ShadingExport.Proofs.FloatDivision
import ShadingExport.Proofs.Surface.Acceptance

/-!
# Exported records are valid

A record is valid for a glossy mode if it alone carries a name, and every material in it, at any
depth, is sound (`MaterialRecord.Valid`): lights shine, rough glass is rough, exponents are finite,
reflections are those of the mode, and normals are perturbed once. A record is valid if its material
is sound and the records in that are valid (`MaterialRecord.valid_of_parts`), so each translator is
looked at once, and the nesting of mixtures carries validity up to the record that a session exports
(`Session.surface_valid`).
-/

namespace ShadingExport

open Translation

variable {τ σ : Type} {mode : GlossyMode}

/-! ## Sound materials and valid records -/

/-- The records that a material is made of. -/
def Material.parts {ρ : Type} : Material τ ρ → List ρ
  | .blend _ first second => [first, second]
  | .normalMap _ _ nested => [nested]
  | _ => []

/-- The material perturbs the normals of another one. -/
def Material.isNormalMap {ρ : Type} : Material τ ρ → Bool
  | .normalMap .. => true
  | _ => false

/-- What the translation of a material guarantees, in a glossy mode. -/
def Material.Sound (mode : GlossyMode) : Material τ (MaterialRecord τ) → Prop
  | .lambertian _ => True
  | .roughConductor .. => mode = .roughConductor
  | .conductor _ => mode = .roughConductor
  | .blinnPhong exponent _ _ => mode = .blinnPhong ∧ exponent.isFinite
  | .phong exponent _ _ => mode = .phong ∧ exponent.isFinite
  | .metal roughness _ =>
    mode ≠ .roughConductor ∧ (mode = .blinnPhong ∨ mode = .phong → roughness = .constant 0)
  | .dielectric ior _ => (ior == 1) = false
  | .thinDielectric ior _ => (ior == 1) = true
  | .roughDielectric roughness _ _ _ => roughness.isZero = false
  | .diffuseLight emit => (emit.sum == 0) = false
  | .blend .. => True
  | .normalMap _ _ nested => nested.material.isNormalMap = false

namespace MaterialRecord

/-- The records in a record, at any depth. -/
def nested : MaterialRecord τ → List (MaterialRecord τ)
  | ⟨_, .blend _ first second⟩ => first :: first.nested ++ second :: second.nested
  | ⟨_, .normalMap _ _ inner⟩ => inner :: inner.nested
  | ⟨_, _⟩ => []

/-- A record as it is exported under a name, or nested without one. -/
structure Valid (mode : GlossyMode) (name : Option String) (record : MaterialRecord τ) : Prop where
  /-- The record has the name. -/
  name_eq : record.name = name
  /-- No record in it has a name. -/
  unnamed : ∀ inner ∈ record.nested, inner.name = none
  /-- The material is sound, and so are those in it. -/
  sound : ∀ layer ∈ record :: record.nested, layer.material.Sound mode

theorem nested_eq_flatMap (name : Option String) (material : Material τ (MaterialRecord τ)) :
    (⟨name, material⟩ : MaterialRecord τ).nested =
      material.parts.flatMap fun part => part :: part.nested := by
  cases material <;> simp [nested, Material.parts]

/-- **A record is valid if its material is sound and the records in that are valid.** -/
theorem valid_of_parts {material : Material τ (MaterialRecord τ)} (name : Option String)
    (hsound : material.Sound mode) (hparts : ∀ part ∈ material.parts, part.Valid mode none) :
    (⟨name, material⟩ : MaterialRecord τ).Valid mode name where
  name_eq := rfl
  unnamed := by
    rw [nested_eq_flatMap]
    intro inner hinner
    obtain ⟨part, hpart, hinner⟩ := List.mem_flatMap.mp hinner
    rcases List.mem_cons.mp hinner with rfl | hinner
    · exact (hparts inner hpart).name_eq
    · exact (hparts part hpart).unnamed inner hinner
  sound := by
    rw [List.forall_mem_cons, nested_eq_flatMap]
    refine ⟨hsound, fun layer hlayer => ?_⟩
    obtain ⟨part, hpart, hlayer⟩ := List.mem_flatMap.mp hlayer
    exact (hparts part hpart).sound layer hlayer

end MaterialRecord

/-! ## Renaming files -/

@[simp] theorem VaryingScalar.map_eq_constant_iff (rename : τ → σ) {value : VaryingScalar τ}
    {number : Float} : value.map rename = .constant number ↔ value = .constant number := by
  cases value <;> simp [map]

namespace MaterialRecord

@[simp] theorem isNormalMap_material_map (rename : τ → σ) (record : MaterialRecord τ) :
    (record.map rename).material.isNormalMap = record.material.isNormalMap := by
  obtain ⟨name, material⟩ := record
  cases material <;> rfl

@[simp] theorem sound_material_map (rename : τ → σ) (record : MaterialRecord τ) :
    (record.map rename).material.Sound mode ↔ record.material.Sound mode := by
  obtain ⟨name, material⟩ := record
  cases material <;> simp [map, Material.Sound]

@[simp] theorem nested_map (rename : τ → σ) :
    ∀ record : MaterialRecord τ, (record.map rename).nested = record.nested.map (·.map rename)
  | ⟨_, .blend _ first second⟩ => by
    simp [map, nested, nested_map rename first, nested_map rename second]
  | ⟨_, .normalMap _ _ inner⟩ => by simp [map, nested, nested_map rename inner]
  | ⟨_, .lambertian _⟩ => rfl
  | ⟨_, .roughConductor ..⟩ => rfl
  | ⟨_, .conductor _⟩ => rfl
  | ⟨_, .blinnPhong ..⟩ => rfl
  | ⟨_, .phong ..⟩ => rfl
  | ⟨_, .metal ..⟩ => rfl
  | ⟨_, .dielectric ..⟩ => rfl
  | ⟨_, .thinDielectric ..⟩ => rfl
  | ⟨_, .roughDielectric ..⟩ => rfl
  | ⟨_, .diffuseLight _⟩ => rfl

/-- Validity does not depend on the files. -/
theorem Valid.map {name : Option String} {record : MaterialRecord τ} (h : record.Valid mode name)
    (rename : τ → σ) : (record.map rename).Valid mode name where
  name_eq := by
    rw [name_map]
    exact h.name_eq
  unnamed := by
    simp only [nested_map, List.forall_mem_map, name_map]
    exact h.unnamed
  sound := by
    simp only [nested_map, List.forall_mem_cons, List.forall_mem_map, sound_material_map]
    exact List.forall_mem_cons.mp h.sound

end MaterialRecord

/-! ## What the kinds of surfaces give -/

/-- A material whose normals are not perturbed yet. -/
structure Material.ValidBase (mode : GlossyMode) (material : Material τ (MaterialRecord τ)) :
    Prop where
  /-- The material is sound. -/
  sound : material.Sound mode
  /-- It is no normal map. -/
  isNormalMap : material.isNormalMap = false
  /-- The records in it are valid and have no name. -/
  parts : ∀ part ∈ material.parts, part.Valid mode none

namespace Graph

variable {graph : Graph} {node : ShadingNode}

theorem diffuse_valid : (graph.diffuse node).Ensures fun _ material => material.ValidBase mode := by
  have hcolor : ((fun albedo => Material.lambertian albedo) <$>
      graph.optionalColor node "Color").Ensures fun _ material => material.ValidBase mode := by
    rw [ensures_map]
    exact fun albedo _ => ⟨trivial, rfl, List.forall_mem_nil _⟩
  unfold diffuse
  simp only [bind_pure_comp]
  refine ensures_ite ?_ hcolor
  rw [ensures_bind, ensures_report]
  exact hcolor

theorem glossyConductor_valid {color : Socket} {distribution : Option Microfacet} :
    (graph.glossyConductor node color distribution).Ensures fun _ material =>
      material.ValidBase .roughConductor := by
  unfold glossyConductor
  simp only [bind_pure_comp]
  split
  · rw [ensures_bind]
    intro roughness _
    rw [ensures_map]
    exact fun albedo _ => ⟨rfl, rfl, List.forall_mem_nil _⟩
  · rw [ensures_map]
    exact fun albedo _ => ⟨rfl, rfl, List.forall_mem_nil _⟩

theorem glossyMetal_valid {color : Socket} {distribution : Option Microfacet} :
    (graph.glossyMetal node color distribution).Ensures fun _ material =>
      material.ValidBase .metal := by
  -- Only the modes with an exponent fix the roughness.
  have hsound : ∀ roughness albedo,
      (Material.metal roughness albedo : Material Image (MaterialRecord Image)).ValidBase .metal :=
    fun _ _ => ⟨⟨by decide, fun h => absurd h (by decide)⟩, rfl, List.forall_mem_nil _⟩
  unfold glossyMetal
  simp only [bind_pure_comp]
  split
  · simp only [ensures_bind, ensures_map]
    exact fun roughness _ albedo _ => hsound roughness albedo
  · rw [pure_bind, ensures_map]
    exact fun albedo _ => hsound (.constant 0) albedo

/-- A surface with an exponent is smooth where the exponent is infinite. -/
theorem glossyExponent_valid {color : Socket} {distribution : Option Microfacet}
    {material : Float → Microfacet → VaryingColor Image → Material Image (MaterialRecord Image)}
    (hmode : mode ≠ .roughConductor)
    (hmaterial : ∀ exponent distribution albedo, exponent.isFinite →
      (material exponent distribution albedo).ValidBase mode) :
    (graph.glossyExponent node color distribution material).Ensures fun _ material =>
      material.ValidBase mode := by
  have hsmooth : ∀ albedo, (pure (.metal (.constant 0) albedo) :
      Translation (Material Image (MaterialRecord Image))).Ensures fun _ material =>
        material.ValidBase mode := by
    intro albedo
    rw [ensures_pure]
    exact ⟨⟨hmode, fun _ => rfl⟩, rfl, List.forall_mem_nil _⟩
  unfold glossyExponent
  simp only [liftM_except, ensures_bind, ensures_ofExcept]
  intro socket _
  refine ensures_ite ensures_fail ?_
  simp only [ensures_bind, ensures_ofExcept]
  intro roughness _ albedo _
  split
  · split
    · next hfinite =>
      rw [ensures_pure]
      exact hmaterial _ _ _ hfinite
    · exact hsmooth albedo
  · exact hsmooth albedo

theorem glossy_valid (mode : GlossyMode) :
    (graph.glossy mode node).Ensures fun _ material => material.ValidBase mode := by
  unfold glossy
  simp only [liftM_except, ensures_bind, ensures_ofExcept]
  intro distribution _ color _
  cases mode with
  | roughConductor => exact glossyConductor_valid
  | metal => exact glossyMetal_valid
  | blinnPhong =>
    exact glossyExponent_valid (by decide) fun exponent distribution albedo hfinite =>
      ⟨⟨rfl, hfinite⟩, rfl, List.forall_mem_nil _⟩
  | phong =>
    exact glossyExponent_valid (by decide) fun exponent distribution albedo hfinite =>
      ⟨⟨rfl, isFinite_div_four hfinite⟩, rfl, List.forall_mem_nil _⟩

theorem glass_valid : (graph.glass node).Ensures fun _ material => material.ValidBase mode := by
  unfold glass
  simp only [liftM_except, ensures_bind, ensures_ofExcept]
  intro ior _ roughness _ distribution _ transmittance _
  split
  · next hrough =>
    rw [ensures_pure]
    exact ⟨hrough, rfl, List.forall_mem_nil _⟩
  · split
    · next hthin =>
      rw [ensures_pure]
      exact ⟨hthin, rfl, List.forall_mem_nil _⟩
    · next hthick =>
      rw [ensures_pure]
      exact ⟨Bool.eq_false_iff.mpr hthick, rfl, List.forall_mem_nil _⟩

theorem emission_valid : node.emission.Ensures fun _ material => material.ValidBase mode := by
  unfold ShadingNode.emission
  simp only [liftM_except, ensures_bind, ensures_ofExcept]
  intro strength _
  refine ensures_ite ensures_fail ?_
  simp only [ensures_bind, ensures_ofExcept]
  intro color _
  refine ensures_ite ensures_fail ?_
  simp only [ensures_bind, ensures_ofExcept]
  intro base _ factor _
  split
  · -- A dark light becomes a black surface.
    rw [ensures_bind, ensures_report, ensures_pure]
    exact ⟨trivial, rfl, List.forall_mem_nil _⟩
  · next hshines =>
    rw [ensures_pure]
    exact ⟨Bool.eq_false_iff.mpr hshines, rfl, List.forall_mem_nil _⟩

section Sides

variable {side : ShadingNode → Translation (MaterialRecord Image)}
  (hside : ∀ child, (side child).Ensures fun _ record => record.Valid mode none)

include hside

theorem blend_valid :
    (graph.blend side node).Ensures fun _ material => material.ValidBase mode := by
  unfold blend
  split
  · next first second _ _ =>
    simp only [liftM_except, ensures_bind, ensures_ofExcept]
    intro fac _ amount _
    refine (hside first).mono fun _ firstRecord hfirst => ?_
    refine (hside second).mono fun _ secondRecord hsecond => ?_
    rw [ensures_pure]
    exact ⟨trivial, rfl, by simp [Material.parts, hfirst, hsecond]⟩
  · exact ensures_fail

theorem material_valid :
    (graph.material mode side node).Ensures fun _ material => material.ValidBase mode := by
  unfold material
  split
  · exact diffuse_valid
  · exact glossy_valid mode
  · exact glass_valid
  · exact emission_valid
  · exact blend_valid hside
  · exact ensures_fail

end Sides

/-- Perturbing the normals of a material takes its name over. -/
theorem perturbed_valid {material : Material Image (MaterialRecord Image)}
    (hmaterial : material.ValidBase mode) (name : Option String) :
    (graph.perturbed node ⟨name, material⟩).Ensures fun _ record => record.Valid mode name := by
  have hsame : (pure ⟨name, material⟩ : Translation (MaterialRecord Image)).Ensures fun _ record =>
      record.Valid mode name := by
    rw [ensures_pure]
    exact MaterialRecord.valid_of_parts name hmaterial.sound hmaterial.parts
  unfold perturbed
  split
  · refine ensures_ite ?_ hsame
    unfold withNormals
    simp only [ensures_bind]
    intro normals _ strength _
    rw [ensures_pure]
    refine MaterialRecord.valid_of_parts name hmaterial.isNormalMap ?_
    rw [Material.parts, List.forall_mem_singleton]
    exact MaterialRecord.valid_of_parts none hmaterial.sound hmaterial.parts
  · exact hsame

theorem surfaceStep_valid {side : ShadingNode → Translation (MaterialRecord Image)}
    (hside : ∀ child, (side child).Ensures fun _ record => record.Valid mode none)
    (name : Option String) :
    (graph.surfaceStep mode side node name).Ensures fun _ record => record.Valid mode name := by
  unfold surfaceStep
  simp only [ensures_bind, ensures_emit]
  exact (material_valid hside).mono fun _ material hmaterial => perturbed_valid hmaterial name

/-- Induction on the bound: the sides of a mixture are translated with a smaller one, and without a
name. -/
theorem surfaceWithin_valid (depth : Nat) (name : Option String) :
    (graph.surfaceWithin mode depth node name).Ensures fun _ record => record.Valid mode name := by
  induction depth generalizing node name with
  | zero => exact ensures_fail
  | succ depth ih => exact surfaceStep_valid (fun _ => ih none) name

end Graph

/-- **Exported records are valid**: whatever the session, the graph, the node and the name, the
record that the translation of the node gives has the name to itself, and all the materials in it
are sound. -/
theorem Session.surface_valid {session : Session} {graph : Graph} {node : ShadingNode}
    {name : Option String} {record : MaterialRecord String}
    (h : (session.surface graph node name).1 = .ok record) :
    record.Valid session.settings.glossyMode name := by
  unfold Session.surface Session.run at h
  cases houtcome : (graph.surface session.settings.glossyMode node name).outcome with
  | error error =>
    rw [houtcome] at h
    cases h
  | ok skeleton =>
    rw [houtcome] at h
    cases h
    exact (Graph.surfaceWithin_valid graph.size name skeleton houtcome).map _

/-- In Phong mode, varnished wood is a mixture that nests three records: the wood, the bumps and the
varnish under them. -/
theorem Session.surface_valid_varnishedWood :
    ∃ node ∈ NodeTree.varnishedWood.graph.nodes, ∃ record,
      ((Session.start { glossyMode := .phong }).surface NodeTree.varnishedWood.graph node
        (some "Wood")).1 = .ok record ∧
      record.nested.map (·.material.typeName) = ["lambertian", "normal map", "phong"] ∧
      record.Valid .phong (some "Wood") := by
  let wood : ShadingNode := NodeTree.varnishedWood.graph.nodes.head (by decide)
  have hnested : ((Session.start { glossyMode := .phong }).surface NodeTree.varnishedWood.graph
      wood (some "Wood")).1.map (·.nested.map (·.material.typeName)) =
        .ok ["lambertian", "normal map", "phong"] := by decide +kernel
  cases hrecord : ((Session.start { glossyMode := .phong }).surface NodeTree.varnishedWood.graph
      wood (some "Wood")).1 with
  | error error =>
    rw [hrecord] at hnested
    cases hnested
  | ok record =>
    rw [hrecord] at hnested
    exact ⟨wood, List.head_mem _, record, hrecord, Except.ok.inj hnested,
      Session.surface_valid hrecord⟩

end ShadingExport
