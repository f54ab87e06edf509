import ShadingExport.Proofs.Session.Rendering
import ShadingExport.Session.Surface

/-!
# Translating in one go does not depend on the session

`Session.translate` carries the session through the translators: each could read what is in it, and
each puts into its result the path that an image has at the moment. It gives what `Session.surface`
gives, which puts the paths in at the end (`Session.translate_eq_surface`). So of the session only
the glossy mode and the paths of images count (`Session.translate_eq_rendering`).

The paths are fixed beforehand: `paths` stands for the ones that the session afterwards has. Images
that were placed before agree with it at every moment (`TextureDirectory.AgreesWith.of_placeAll`),
since no later placement moves them, so each translator may be compared with the record over images
under `paths`, without regard to what comes after it (`SessionM.Performs`).
-/

namespace ShadingExport

open Translation

/-! ## Renaming the files of a material -/

section Renaming

variable {τ σ : Type}

/-- Renames the files in a material. -/
def Material.map (rename : τ → σ) (material : Material τ (MaterialRecord τ)) :
    Material σ (MaterialRecord σ) :=
  (MaterialRecord.map rename ⟨none, material⟩).material

/-- Renaming the files of a record renames those of its material. -/
theorem MaterialRecord.map_mk (rename : τ → σ) (name : Option String)
    (material : Material τ (MaterialRecord τ)) :
    MaterialRecord.map rename ⟨name, material⟩ = ⟨name, material.map rename⟩ := by
  cases material <;> rfl

end Renaming

/-! ## Directories that agree with paths -/

namespace TextureDirectory

variable {textures : TextureDirectory} {paths : Image → String}

/-- Every image that has a place has it at the path that `paths` gives for it. -/
def AgreesWith (textures : TextureDirectory) (paths : Image → String) : Prop :=
  ∀ image path, textures.path? image = some path → paths image = path

/-- A directory agrees with its own paths. -/
theorem agreesWith_path (textures : TextureDirectory) : textures.AgreesWith textures.path := by
  intro image path hpath
  rw [TextureDirectory.path, hpath, Option.getD_some]

/-- A directory that agrees with paths after more images have been placed agreed before. -/
theorem AgreesWith.of_placeAll {images : List Image}
    (h : (textures.placeAll images).AgreesWith paths) : textures.AgreesWith paths := by
  intro image path hpath
  have hstays : (textures.placeAll images).path? image = textures.path? image :=
    path?_placeAll_of_isSome images (Option.isSome_of_eq_some hpath)
  exact h image path (hstays.trans hpath)

end TextureDirectory

/-! ## Computations that perform translations -/

namespace SessionM

variable {α β α' β' : Type} {mode : GlossyMode} {paths : Image → String} {render : α → α'}
  {render' : β → β'}

/-- A computation performs a translation, as far as sessions with a glossy mode go whose directory
agrees with `paths` once everything that the translation asks for has been placed: it leaves the
session with the events performed, and its result is that of the translation as `render` renders
it, or the very error of the translation. -/
def Performs (mode : GlossyMode) (paths : Image → String) (render : α → α')
    (computation : SessionM α') (translation : Translation α) : Prop :=
  ∀ session : Session, session.settings.glossyMode = mode →
    (session.perform translation.events).textures.AgreesWith paths →
      computation.run.run session =
        (translation.outcome.map render, session.perform translation.events)

theorem performs_pure {value : α} {value' : α'} (h : value' = render value) :
    Performs mode paths render (pure value') (pure value) := by
  intro session _ _
  rw [h, events_pure, Session.perform_nil]
  rfl

theorem performs_throw (error : TranslationError) :
    Performs mode paths render (throw error) (fail error) := by
  intro session _ _
  rw [events_fail, Session.perform_nil]
  rfl

theorem performs_liftM (outcome : Except TranslationError α) :
    Performs mode paths id (liftM outcome) (liftM outcome) := by
  intro session _ _
  rw [liftM_except, events_ofExcept, Session.perform_nil]
  cases outcome with
  | error error => rfl
  | ok value => rfl

theorem performs_report (message : Report) :
    Performs mode paths id (report message) (Translation.report message) := fun _ _ _ => rfl

theorem performs_trace (step : Trace) :
    Performs mode paths id (trace step) (emit (.trace step)) := fun _ _ _ => rfl

/-- **The path that an image has when it is asked for** is the one that `paths` gives for it. -/
theorem performs_texturePath (image : Image) :
    Performs mode paths (fun _ => paths image) (texturePath image) (emit (.texture image)) := by
  intro session _ hpaths
  have hplaced : (session.textures.place image).path? image = some (session.textures.path image) :=
    TextureDirectory.path?_place_self session.textures image
  have hpath : paths image = session.textures.path image := hpaths image _ hplaced
  show (Except.ok (session.textures.path image), _) = (Except.ok (paths image), _)
  rw [hpath]
  rfl

/-- A result is passed on, with the session that it left. -/
theorem run_bind_ok {computation : SessionM α} {next : α → SessionM β} {session after : Session}
    {value : α} (h : computation.run.run session = (.ok value, after)) :
    (computation >>= next).run.run session = (next value).run.run after := by
  rw [ExceptT.run_bind, StateT.run_bind, h]
  rfl

/-- A failure is passed on, with the session that it left. -/
theorem run_bind_error {computation : SessionM α} {next : α → SessionM β} {session after : Session}
    {error : TranslationError} (h : computation.run.run session = (.error error, after)) :
    (computation >>= next).run.run session = (.error error, after) := by
  rw [ExceptT.run_bind, StateT.run_bind, h]
  rfl

/-- **One step after another performs one translation after another**, where the later step goes on
with the rendered result of the earlier one. -/
theorem performs_bind {computation : SessionM α'} {translation : Translation α}
    {next' : α' → SessionM β'} {next : α → Translation β}
    (h : Performs mode paths render computation translation)
    (hnext : ∀ value, Performs mode paths render' (next' (render value)) (next value)) :
    Performs mode paths render' (computation >>= next') (translation >>= next) := by
  intro session hmode hpaths
  cases houtcome : translation.outcome with
  | error error =>
    rw [events_bind_error next houtcome] at hpaths ⊢
    have hrun := h session hmode hpaths
    rw [houtcome] at hrun
    rw [run_bind_error hrun, outcome_bind_error next houtcome]
    rfl
  | ok value =>
    rw [events_bind_ok next houtcome, Session.perform_append] at hpaths ⊢
    -- What the later step places leaves the paths of the earlier one as they are.
    have hrun := h session hmode hpaths.of_placeAll
    rw [houtcome] at hrun
    rw [run_bind_ok hrun, outcome_bind_ok next houtcome]
    exact hnext value _ hmode hpaths

/-- What is read off a node is the same on both sides. -/
theorem performs_liftM_bind {outcome : Except TranslationError α} {next' : α → SessionM β'}
    {next : α → Translation β}
    (hnext : ∀ value, Performs mode paths render' (next' value) (next value)) :
    Performs mode paths render' (liftM outcome >>= next') (liftM outcome >>= next) :=
  performs_bind (performs_liftM outcome) hnext

/-- Of the session, its glossy mode may be read. -/
theorem performs_get_bind {next' : Session → SessionM α'} {translation : Translation α}
    (h : ∀ session : Session, session.settings.glossyMode = mode →
      Performs mode paths render (next' session) translation) :
    Performs mode paths render (get >>= next') translation := by
  intro session hmode hpaths
  show (next' session).run.run session = _
  exact h session hmode session hmode hpaths

theorem performs_ite {p : Prop} [Decidable p] {computation computation' : SessionM α'}
    {translation translation' : Translation α}
    (hthen : Performs mode paths render computation translation)
    (helse : Performs mode paths render computation' translation') :
    Performs mode paths render (if p then computation else computation')
      (if p then translation else translation') := by
  split
  · exact hthen
  · exact helse

/-- A report that depends on a condition changes nothing for what comes after it. -/
theorem performs_ite_report {p : Prop} [Decidable p] {message : Report} {next' : Unit → SessionM α'}
    {next : Unit → Translation α} (h : Performs mode paths render (next' ()) (next ())) :
    Performs mode paths render (if p then report message >>= next' else next' ())
      (if p then Translation.report message >>= next else next ()) :=
  performs_ite (performs_bind (performs_report message) fun _ => h) h

/-! ### Sockets -/

theorem texture_performs (node : ShadingNode) :
    Performs mode paths (ImageTexture.map paths) (texture node) node.texture := by
  unfold texture ShadingNode.texture
  refine performs_liftM_bind fun image => ?_
  refine performs_bind (performs_texturePath image) fun _ => ?_
  exact performs_ite_report (performs_pure rfl)

theorem refractionIndex_performs (node : ShadingNode) :
    Performs mode paths id (refractionIndex node) node.refractionIndex := by
  unfold refractionIndex ShadingNode.refractionIndex
  refine performs_liftM_bind fun socket => ?_
  exact performs_ite_report (performs_liftM socket.getNumber)

theorem scalar_performs (graph : Graph) (socket : Socket) :
    Performs mode paths (VaryingScalar.map paths) (scalar graph socket) (graph.scalar socket) := by
  unfold scalar Graph.scalar
  cases graph.upstream? socket with
  | none => exact performs_liftM_bind fun value => performs_pure rfl
  | some node =>
    dsimp only
    cases node.kind with
    | imageTexture => exact performs_bind (texture_performs node) fun _ => performs_pure rfl
    | fresnel => exact performs_bind (refractionIndex_performs node) fun _ => performs_pure rfl
    | _ => exact performs_throw _

theorem tangentNormals_performs (graph : Graph) (node : ShadingNode) :
    Performs mode paths (VaryingColor.map paths) (tangentNormals graph node)
      (graph.tangentNormals node) := by
  unfold tangentNormals Graph.tangentNormals
  refine performs_ite (performs_throw _) (performs_liftM_bind fun socket => ?_)
  cases graph.upstream? socket with
  | none => exact performs_throw _
  | some source =>
    refine performs_ite ?_ (performs_throw _)
    exact performs_bind (texture_performs source) fun _ => performs_pure rfl

theorem color_performs (graph : Graph) (socket : Socket) :
    Performs mode paths (VaryingColor.map paths) (color graph socket) (graph.color socket) := by
  unfold color Graph.color
  cases graph.upstream? socket with
  | none => exact performs_liftM_bind fun value => performs_pure rfl
  | some node =>
    dsimp only
    cases node.kind with
    | imageTexture => exact performs_bind (texture_performs node) fun _ => performs_pure rfl
    | normalMap => exact tangentNormals_performs graph node
    | rgb => exact performs_liftM_bind fun value => performs_pure rfl
    | _ => exact performs_throw _

theorem optionalColor_performs (graph : Graph) (node : ShadingNode) (name : String) :
    Performs mode paths (Option.map (VaryingColor.map paths)) (optionalColor graph node name)
      (graph.optionalColor node name) := by
  unfold optionalColor Graph.optionalColor
  cases node.input? name with
  | none => exact performs_pure rfl
  | some socket => exact performs_bind (color_performs graph socket) fun _ => performs_pure rfl

theorem roughness_performs (graph : Graph) (node : ShadingNode) :
    Performs mode paths (VaryingScalar.map paths) (roughness graph node) (graph.roughness node) := by
  unfold roughness Graph.roughness
  exact performs_liftM_bind fun socket => scalar_performs graph socket

theorem normalStrength_performs (graph : Graph) (normal : Socket) :
    Performs mode paths id (normalStrength graph normal) (graph.normalStrength normal) := by
  unfold normalStrength Graph.normalStrength
  cases graph.upstream? normal with
  | none => exact performs_pure rfl
  | some node =>
    refine performs_ite (performs_liftM_bind fun strength => ?_) (performs_pure rfl)
    exact performs_ite (performs_throw _) (performs_liftM_bind fun value => performs_pure rfl)

/-! ### Materials -/

theorem diffuse_performs (graph : Graph) (node : ShadingNode) :
    Performs mode paths (Material.map paths) (diffuse graph node) (graph.diffuse node) := by
  unfold diffuse Graph.diffuse
  refine performs_ite_report ?_
  exact performs_bind (optionalColor_performs graph node "Color") fun _ => performs_pure rfl

/-- The material of a surface with an exponent is that of the mode. -/
theorem glossyExponent_performs (graph : Graph) (node : ShadingNode) (socket : Socket)
    (distribution : Option Microfacet)
    {build : Float → Microfacet → VaryingColor Image → Material Image (MaterialRecord Image)}
    (hbuild : ∀ exponent distribution albedo,
      (if mode = .phong then .phong (exponent / 4) distribution (albedo.map paths)
        else .blinnPhong exponent distribution (albedo.map paths)) =
        (build exponent distribution albedo).map paths) :
    Performs mode paths (Material.map paths) (glossyExponent graph mode node socket distribution)
      (graph.glossyExponent node socket distribution build) := by
  unfold glossyExponent Graph.glossyExponent
  refine performs_liftM_bind fun roughnessSocket => ?_
  refine performs_ite (performs_throw _) (performs_liftM_bind fun roughness => ?_)
  refine performs_bind (color_performs graph socket) fun albedo => ?_
  cases distribution with
  | none => exact performs_pure rfl
  | some distribution =>
    exact performs_ite (performs_pure (hbuild _ distribution albedo)) (performs_pure rfl)

theorem glossy_performs (graph : Graph) (node : ShadingNode) :
    Performs mode paths (Material.map paths) (glossy graph node) (graph.glossy mode node) := by
  unfold glossy Graph.glossy
  refine performs_liftM_bind fun distribution => performs_liftM_bind fun socket => ?_
  refine performs_get_bind fun session hmode => ?_
  rw [hmode]
  cases mode with
  | roughConductor =>
    cases distribution.microfacet? with
    | none => exact performs_bind (color_performs graph socket) fun _ => performs_pure rfl
    | some distribution =>
      refine performs_bind (roughness_performs graph node) fun roughness => ?_
      exact performs_bind (color_performs graph socket) fun _ => performs_pure rfl
  | metal =>
    cases distribution.microfacet? with
    | none =>
      have hsmooth : Performs .metal paths (VaryingScalar.map paths)
          (pure (.constant 0)) (pure (.constant 0)) := performs_pure rfl
      refine performs_bind hsmooth fun roughness => ?_
      exact performs_bind (color_performs graph socket) fun _ => performs_pure rfl
    | some distribution =>
      refine performs_bind (roughness_performs graph node) fun roughness => ?_
      exact performs_bind (color_performs graph socket) fun _ => performs_pure rfl
  | blinnPhong => exact glossyExponent_performs graph node socket _ fun _ _ _ => rfl
  | phong => exact glossyExponent_performs graph node socket _ fun _ _ _ => rfl

theorem glass_performs (graph : Graph) (node : ShadingNode) :
    Performs mode paths (Material.map paths) (glass graph node) (graph.glass node) := by
  unfold glass Graph.glass
  refine performs_bind (refractionIndex_performs node) fun ior => ?_
  refine performs_bind (roughness_performs graph node) fun roughness => ?_
  refine performs_liftM_bind fun distribution => ?_
  refine performs_bind (optionalColor_performs graph node "Color") fun transmittance => ?_
  -- A texture for the roughness is not zero, whatever its path.
  rw [VaryingScalar.isZero_map]
  cases distribution.microfacet? with
  | none => exact performs_ite (performs_pure rfl) (performs_pure rfl)
  | some distribution =>
    cases roughness.isZero with
    | false => exact performs_pure rfl
    | true => exact performs_ite (performs_pure rfl) (performs_pure rfl)

theorem emission_performs (node : ShadingNode) :
    Performs mode paths (Material.map paths) (emission node) node.emission := by
  unfold emission ShadingNode.emission
  refine performs_liftM_bind fun strength => performs_ite (performs_throw _) ?_
  refine performs_liftM_bind fun color => performs_ite (performs_throw _) ?_
  refine performs_liftM_bind fun base => performs_liftM_bind fun factor => ?_
  refine performs_ite ?_ (performs_pure rfl)
  exact performs_bind (performs_report _) fun _ => performs_pure rfl

section Mixtures

variable {graph : Graph} {side' : ShadingNode → SessionM (MaterialRecord String)}
  {side : ShadingNode → Translation (MaterialRecord Image)}

/-- The second side goes on in the session that the first one left. -/
theorem blend_performs
    (hside : ∀ child, Performs mode paths (MaterialRecord.map paths) (side' child) (side child))
    (node : ShadingNode) :
    Performs mode paths (Material.map paths) (blend graph side' node) (graph.blend side node) := by
  unfold blend Graph.blend
  cases graph.feeding? node "Shader" with
  | none => exact performs_throw _
  | some first =>
    cases graph.feeding? node "Shader_001" with
    | none => exact performs_throw _
    | some second =>
      refine performs_liftM_bind fun fac => ?_
      refine performs_bind (scalar_performs graph fac) fun amount => ?_
      refine performs_bind (hside first) fun firstRecord => ?_
      exact performs_bind (hside second) fun secondRecord => performs_pure rfl

theorem material_performs
    (hside : ∀ child, Performs mode paths (MaterialRecord.map paths) (side' child) (side child))
    (node : ShadingNode) :
    Performs mode paths (Material.map paths) (material graph side' node)
      (graph.material mode side node) := by
  unfold material Graph.material
  cases node.kind with
  | diffuse => exact diffuse_performs graph node
  | glossy => exact glossy_performs graph node
  | glass => exact glass_performs graph node
  | emission => exact emission_performs node
  | mix => exact blend_performs hside node
  | _ => exact performs_throw _

end Mixtures

theorem perturbed_performs (graph : Graph) (node : ShadingNode) (record : MaterialRecord Image) :
    Performs mode paths (MaterialRecord.map paths) (perturbed graph node (record.map paths))
      (graph.perturbed node record) := by
  unfold perturbed Graph.perturbed
  cases node.input? "Normal" with
  | none => exact performs_pure rfl
  | some normal =>
    refine performs_ite ?_ (performs_pure rfl)
    refine performs_bind (color_performs graph normal) fun normals => ?_
    refine performs_bind (normalStrength_performs graph normal) fun strength => performs_pure ?_
    obtain ⟨name, material⟩ := record
    rw [MaterialRecord.map, MaterialRecord.map_mk, MaterialRecord.map_mk]
    rfl

/-- **A surface performs its translation**, however deep its mixtures are nested. -/
theorem surfaceWithin_performs (graph : Graph) (depth : ℕ) (node : ShadingNode)
    (name : Option String) :
    Performs mode paths (MaterialRecord.map paths) (surfaceWithin graph depth node name)
      (graph.surfaceWithin mode depth node name) := by
  -- Induction on the depth: the sides of a mixture are nested one level less.
  induction depth generalizing node name with
  | zero => exact performs_throw _
  | succ depth ih =>
    unfold surfaceWithin Graph.surfaceWithin Graph.surfaceStep
    refine performs_bind (performs_trace _) fun _ => ?_
    have hsides : ∀ child, Performs mode paths (MaterialRecord.map paths)
        (surfaceWithin graph depth child none) (graph.surfaceWithin mode depth child none) :=
      fun child => ih child none
    refine performs_bind (material_performs hsides node) fun material => ?_
    rw [← MaterialRecord.map_mk]
    exact perturbed_performs graph node ⟨name, material⟩

end SessionM

/-! ## Sessions -/

namespace Session

/-- **Putting paths in at once is putting them in at the end.** -/
theorem translate_eq_surface (session : Session) (graph : Graph) (node : ShadingNode)
    (name : Option String) : session.translate graph node name = session.surface graph node name := by
  let translation := graph.surface session.settings.glossyMode node name
  let after := session.perform translation.events
  have hperforms : SessionM.Performs session.settings.glossyMode after.textures.path
      (MaterialRecord.map after.textures.path)
      (SessionM.surfaceWithin graph graph.size node name) translation :=
    SessionM.surfaceWithin_performs graph graph.size node name
  exact hperforms session rfl after.textures.agreesWith_path

/-- **A translation is one skeleton and one list of events**, whatever the session: for a node and
a name there are an outcome and events for each glossy mode, such that every session with that mode
fails with the very error of the outcome, or gives the record over images in it with every image
replaced by its path in the texture directory afterwards. The reports are those of the events, the
settings and the registry stay, and the path of each image is the one that it had or was given when
it was asked for. -/
theorem translate_eq_rendering (graph : Graph) (node : ShadingNode) (name : Option String) :
    ∃ (outcome : GlossyMode → Except TranslationError (MaterialRecord Image))
      (events : GlossyMode → List Event), ∀ session : Session,
        let mode := session.settings.glossyMode
        let (result, after) := session.translate graph node name
        (match outcome mode with
          | .error error => result = .error error
          | .ok skeleton =>
            ∃ record, result = .ok record ∧ after.textures.Renders skeleton record) ∧
        after.reports = session.reports ++ reportsOf (events mode) ∧
        after.settings = session.settings ∧ after.registry = session.registry ∧
        ∀ before image rest, events mode = before ++ .texture image :: rest →
          after.textures.path? image = some ((session.perform before).textures.path image) := by
  refine ⟨fun mode => (graph.surface mode node name).outcome,
    fun mode => (graph.surface mode node name).events, fun session => ?_⟩
  rw [translate_eq_surface]
  dsimp only [surface, run]
  have hfiles := graph.surface_ensures session.settings.glossyMode node name
  refine ⟨?_, reports_perform session _, rfl, rfl, ?_⟩
  · cases houtcome : (graph.surface session.settings.glossyMode node name).outcome with
    | error error => rfl
    | ok skeleton => exact ⟨_, rfl, renders_perform session (hfiles skeleton houtcome).2⟩
  · intro before image rest hevents
    rw [hevents]
    exact path?_perform_append_cons session before image rest

end Session

end ShadingExport
