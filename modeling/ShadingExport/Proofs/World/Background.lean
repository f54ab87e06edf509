import ShadingExport.Proofs.Session.Rendering
import ShadingExport.Proofs.Translation.Reports
import ShadingExport.Proofs.Translation.Settled
import ShadingExport.Proofs.World.Environment

/-!
# What a session makes of a world

The translation of a world has one event at most (`World.background_brief`): it asks for one image,
or it succeeds and remarks why nothing shines. A failure is therefore the only report, and a session
that writes a background adds one report and one copy at most. The background is an environment map
exactly for the worlds that show one, with the path that the image has been given
(`Session.writeBackground_spec`).
-/

namespace ShadingExport

open Translation

/-! ## One event at most -/

/-- How the warning about a failed world begins. -/
def worldFailureBeginning : String := "Error while converting background: "

/-- The report is a warning about a failed world. -/
def Report.IsWorldFailure (report : Report) : Prop :=
  report.severity = .warning ∧ report.Begins worldFailureBeginning

instance : DecidablePred Report.IsWorldFailure := fun report =>
  inferInstanceAs (Decidable (report.severity = .warning ∧ report.Begins worldFailureBeginning))

/-- The report that settles a failure is a warning about it. -/
theorem Report.isWorldFailure_worldFailed (error : TranslationError) :
    (Report.worldFailed error).IsWorldFailure := by
  refine ⟨rfl, ?_⟩
  show worldFailureBeginning.toList <+:
    (worldFailureBeginning ++ error.message ++ ". Using default.").toList
  rw [String.append_assoc]
  exact toList_isPrefix_append _ _

/-- The ways in which a translation has one event at most: it has none, it asks for an image, or it
succeeds with a remark. -/
inductive Translation.Brief {α : Type} (translation : Translation α) : Prop where
  /-- Nothing happens. -/
  | silent (hevents : translation.events = [])
  /-- An image is asked for. -/
  | asks (image : Image) (hevents : translation.events = [.texture image])
  /-- Something is remarked, and there is a result. -/
  | remarks (remark : Report) (hremark : ¬ remark.IsWorldFailure)
    (hevents : translation.events = [.report remark]) (hsucceeds : translation.Succeeds)

namespace Translation

variable {α β : Type} {translation : Translation α}

/-- One image is asked for at most. -/
theorem Brief.length_imagesOf_le (h : translation.Brief) :
    (imagesOf translation.events).length ≤ 1 := by
  cases h with
  | silent hevents =>
    rw [hevents]
    exact Nat.zero_le 1
  | asks image hevents =>
    rw [hevents]
    exact Nat.le_refl 1
  | remarks remark hremark hevents =>
    rw [hevents]
    exact Nat.zero_le 1

/-- One remark is made at most. -/
theorem Brief.length_reportsOf_le (h : translation.Brief) :
    (reportsOf translation.events).length ≤ 1 := by
  cases h with
  | silent hevents =>
    rw [hevents]
    exact Nat.zero_le 1
  | asks image hevents =>
    rw [hevents]
    exact Nat.zero_le 1
  | remarks remark hremark hevents =>
    rw [hevents]
    exact Nat.le_refl 1

/-- A remark is not taken for a failure. -/
theorem Brief.reportsOnly (h : translation.Brief) :
    translation.ReportsOnly fun report => ¬ report.IsWorldFailure := by
  unfold ReportsOnly
  cases h with
  | silent hevents =>
    rw [hevents]
    exact List.forall_mem_nil _
  | asks image hevents =>
    rw [hevents]
    exact List.forall_mem_nil _
  | remarks remark hremark hevents =>
    rw [hevents]
    exact List.forall_mem_singleton.mpr hremark

/-- Nothing is remarked if there is no result. -/
theorem Brief.reportsOf_eq_nil (h : translation.Brief) {error : TranslationError}
    (hfails : translation.outcome = .error error) : reportsOf translation.events = [] := by
  cases h with
  | silent hevents =>
    rw [hevents]
    rfl
  | asks image hevents =>
    rw [hevents]
    rfl
  | remarks remark hremark hevents hsucceeds =>
    obtain ⟨value, hvalue⟩ := hsucceeds
    rw [hfails] at hvalue
    cases hvalue

/-- What is read on the way adds no event. -/
theorem brief_ofExcept_bind {outcome : Except TranslationError α} {next : α → Translation β}
    (h : ∀ value, (next value).Brief) : (ofExcept outcome >>= next).Brief := by
  cases outcome with
  | error error => exact .silent rfl
  | ok value => exact h value

/-- After a remark there is nothing but a result. -/
theorem brief_report_bind_pure {remark : Report} (hremark : ¬ remark.IsWorldFailure) (value : α) :
    (report remark >>= fun _ => pure value).Brief :=
  .remarks remark hremark rfl ⟨value, rfl⟩

end Translation

namespace Graph

variable {graph : Graph}

theorem constantRadiance_brief (base : Color) (strength : Float) :
    (constantRadiance base strength).Brief := by
  unfold constantRadiance
  dsimp only
  split
  · exact brief_report_bind_pure (by decide) _
  · exact .silent rfl

/-- An environment texture asks for its image, whatever becomes of its coordinates. -/
theorem envmap_brief (texture : ShadingNode) (scale : Float) :
    (graph.envmap texture scale).Brief := by
  refine brief_ofExcept_bind fun image => .asks image ?_
  rw [events_bind_ok _ (outcome_emit _), events_emit]
  split
  · rfl
  · cases graph.coordinateRotation _ <;> rfl

theorem emittedBackground_brief (node : ShadingNode) (strength : Float) :
    (graph.emittedBackground node strength).Brief := by
  refine brief_ofExcept_bind fun socket => ?_
  split
  · exact brief_ofExcept_bind fun color => constantRadiance_brief color strength
  · split
    · exact envmap_brief _ _
    · exact brief_ofExcept_bind fun color => constantRadiance_brief color strength
    · exact .silent rfl

theorem surfaceBackground_brief (node : ShadingNode) : (graph.surfaceBackground node).Brief := by
  refine brief_ofExcept_bind fun socket => ?_
  split
  · exact .silent rfl
  · refine brief_ofExcept_bind fun strength => ?_
    split
    · exact brief_report_bind_pure (by decide) _
    · split
      · exact emittedBackground_brief node strength
      · exact .silent rfl

theorem background_brief (graph : Graph) : graph.background.Brief := by
  unfold background
  split
  · exact brief_report_bind_pure (by decide) _
  · split
    · exact .silent rfl
    · exact surfaceBackground_brief _

end Graph

/-- **The translation of a world has one event at most.** -/
theorem World.background_brief (world : World) : world.background.Brief := by
  unfold World.background
  split
  · exact brief_ofExcept_bind Graph.background_brief
  · split
    · exact .silent rfl
    · exact .silent rfl

/-! ## The settled world -/

/-- The world cannot be translated. -/
def World.Fails (world : World) (error : TranslationError) : Prop :=
  world.background.outcome = .error error

/-- What a world is settled with. -/
structure SettlesWorld (world : Option World) (settled : Settled (Background Image)) : Prop where
  /-- One image is asked for at most. -/
  images : (imagesOf settled.events).length ≤ 1
  /-- There is one report at most. -/
  reports : (reportsOf settled.events).length ≤ 1
  /-- A warning about a failed world is about the failure of this one. -/
  fails : ∀ report ∈ reportsOf settled.events, report.IsWorldFailure →
    ∃ surroundings error, world = some surroundings ∧ surroundings.Fails error
  /-- A failure is all that is reported, and it is replaced by the fallback. -/
  settles : ∀ surroundings error, world = some surroundings → surroundings.Fails error →
    reportsOf settled.events = [.worldFailed error] ∧ settled.value = fallbackBackground

/-- **A world is settled with one report and one image at most**, and a warning about a failed world
tells of its own failure. -/
theorem settlesWorld_translateWorld (world : Option World) :
    SettlesWorld world (translateWorld world) := by
  cases world with
  | none =>
    refine ⟨Nat.zero_le 1, Nat.le_refl 1, List.forall_mem_singleton.mpr ?_, ?_⟩
    · exact fun hfailure => absurd hfailure (by decide)
    · rintro _ _ ⟨⟩
  | some world =>
    have hbrief := world.background_brief
    cases houtcome : world.background.outcome with
    | ok background =>
      have hsettled : translateWorld (some world) = ⟨world.background.events, background⟩ :=
        settle_of_ok _ houtcome
      rw [hsettled]
      refine ⟨hbrief.length_imagesOf_le, hbrief.length_reportsOf_le, ?_, ?_⟩
      · exact fun report hreport hfailure => absurd hfailure (hbrief.reportsOnly report hreport)
      · rintro _ error ⟨⟩ hfails
        rw [World.Fails, houtcome] at hfails
        cases hfails
    | error error =>
      have hsettled : translateWorld (some world) =
          ⟨world.background.events ++ [.report (.worldFailed error)], fallbackBackground⟩ :=
        settle_of_error _ houtcome
      rw [hsettled]
      -- A translation that fails has remarked nothing, so that its failure is the only report.
      have hreports : reportsOf (world.background.events ++ [.report (.worldFailed error)]) =
          [.worldFailed error] := by
        rw [reportsOf_append, hbrief.reportsOf_eq_nil houtcome, reportsOf_report, List.nil_append]
      have himages : imagesOf (world.background.events ++ [.report (.worldFailed error)]) =
          imagesOf world.background.events := by
        rw [imagesOf_append]
        exact List.append_nil _
      refine ⟨?_, ?_, fun _ _ _ => ⟨world, error, rfl, houtcome⟩, ?_⟩
      · rw [himages]
        exact hbrief.length_imagesOf_le
      · rw [hreports]
        exact Nat.le_refl 1
      · rintro _ error' ⟨⟩ hfails
        rw [World.Fails, houtcome] at hfails
        cases hfails
        exact ⟨hreports, rfl⟩

/-- **A world is settled with an environment map** exactly if it shows one. -/
theorem translateWorld_eq_environment_iff {world : Option World} {map : Envmap Image} :
    (translateWorld world).value = .environment map ↔
      ∃ surroundings, world = some surroundings ∧
        surroundings.ShowsEnvironment map.file map.scale map.transform := by
  cases world with
  | none =>
    refine iff_of_false ?_ ?_
    · rintro ⟨⟩
    · rintro ⟨_, ⟨⟩, -⟩
  | some world =>
    simp only [Option.some.injEq, exists_eq_left', ← World.background_eq_environment_iff]
    cases houtcome : world.background.outcome with
    | ok background =>
      have hsettled : translateWorld (some world) = ⟨world.background.events, background⟩ :=
        settle_of_ok _ houtcome
      rw [hsettled, Except.ok.injEq]
    | error error =>
      have hsettled : translateWorld (some world) =
          ⟨world.background.events ++ [.report (.worldFailed error)], fallbackBackground⟩ :=
        settle_of_error _ houtcome
      rw [hsettled]
      refine iff_of_false ?_ ?_
      · rintro ⟨⟩
      · rintro ⟨⟩

/-! ## Writing a background -/

/-- Placing images adds one copy for each at most. -/
theorem TextureDirectory.exists_copies_placeAll (images : List Image)
    (textures : TextureDirectory) :
    ∃ added, (textures.placeAll images).copies = textures.copies ++ added ∧
      added.length ≤ images.length := by
  induction images generalizing textures with
  | nil => exact ⟨[], (List.append_nil _).symm, Nat.le_refl 0⟩
  | cons image rest ih =>
    obtain ⟨later, hlater, hlength⟩ := ih (textures.place image)
    obtain ⟨first, hfirst, hone⟩ : ∃ first, (textures.place image).copies =
        textures.copies ++ first ∧ first.length ≤ 1 := by
      unfold place
      split
      · exact ⟨[], (List.append_nil _).symm, Nat.zero_le 1⟩
      · exact ⟨_, List.map_append, Nat.le_refl 1⟩
    refine ⟨first ++ later, ?_, ?_⟩
    · show ((textures.place image).placeAll rest).copies = _
      rw [hlater, hfirst, List.append_assoc]
    · rw [List.length_append, List.length_cons]
      omega

/-- An image that is placed has its path. -/
theorem TextureDirectory.path?_eq_some_path {textures : TextureDirectory} {image : Image}
    (h : (textures.path? image).isSome) : textures.path? image = some (textures.path image) := by
  obtain ⟨path, hpath⟩ := Option.isSome_iff_exists.mp h
  rw [TextureDirectory.path, hpath, Option.getD_some]

namespace Session

/-- The background that a session writes is an environment map exactly if the world shows one, with
the path that its image has been given. -/
theorem writeBackground_eq_environment_iff (session : Session) (world : Option World)
    {path : String} {strength : Float} {turn : Option (Matrix Float)} :
    (session.writeBackground world).1 = .environment ⟨path, strength, turn⟩ ↔
      ∃ surroundings image, world = some surroundings ∧
        surroundings.ShowsEnvironment image strength turn ∧
        (session.writeBackground world).2.textures.path? image = some path := by
  let textures := session.textures.placeAll (imagesOf (translateWorld world).events)
  have hfiles := files_translateWorld_subset world
  show (translateWorld world).value.map textures.path = _ ↔
    ∃ surroundings image, world = some surroundings ∧
      surroundings.ShowsEnvironment image strength turn ∧ textures.path? image = some path
  -- The image of an environment map has been asked for, so that it has its path.
  have hplaced : ∀ map, (translateWorld world).value = .environment map →
      textures.path? map.file = some (textures.path map.file) := by
    intro map hmap
    rw [hmap] at hfiles
    exact TextureDirectory.path?_eq_some_path
      (TextureDirectory.isSome_path?_placeAll (hfiles List.mem_cons_self))
  constructor
  · intro h
    cases hvalue : (translateWorld world).value with
    | constant radiance =>
      rw [hvalue] at h
      cases h
    | environment map =>
      obtain ⟨surroundings, hworld, hshows⟩ := translateWorld_eq_environment_iff.mp hvalue
      have hpath := hplaced map hvalue
      rw [hvalue] at h
      cases h
      exact ⟨surroundings, map.file, hworld, hshows, hpath⟩
  · rintro ⟨surroundings, image, hworld, hshows, hpath⟩
    have hvalue : (translateWorld world).value = .environment ⟨image, strength, turn⟩ :=
      translateWorld_eq_environment_iff.mpr ⟨surroundings, hworld, hshows⟩
    have hsame := hplaced _ hvalue
    rw [hpath, Option.some.injEq] at hsame
    rw [hvalue, hsame]
    rfl

/-- **Writing a background never fails.** It keeps the settings and the registry, reports one
message at most and adds one copy at most. It gives an environment map exactly if the world shows
one, with the strength and the turn of that and with the path that its image has been given. And it
warns about a failed world exactly if the world cannot be translated and the fallback is substituted
for it; then there is no other report. -/
theorem writeBackground_spec (session : Session) (world : Option World) :
    let background := (session.writeBackground world).1
    let after := (session.writeBackground world).2
    after.settings = session.settings ∧ after.registry = session.registry ∧
      (∃ copies, after.textures.copies = session.textures.copies ++ copies ∧
        copies.length ≤ 1) ∧
      (∀ path strength turn, background = .environment ⟨path, strength, turn⟩ ↔
        ∃ surroundings image, world = some surroundings ∧
          surroundings.ShowsEnvironment image strength turn ∧
          after.textures.path? image = some path) ∧
      ∃ reports, after.reports = session.reports ++ reports ∧ reports.length ≤ 1 ∧
        ((∃ report ∈ reports, report.severity = .warning ∧
            report.Begins "Error while converting background: ") ↔
          ∃ surroundings error, world = some surroundings ∧ surroundings.Fails error) ∧
        ∀ surroundings error, world = some surroundings → surroundings.Fails error →
          reports = [.worldFailed error] ∧ background = .constant (.grey 5) := by
  dsimp only
  have hsettles := settlesWorld_translateWorld world
  refine ⟨rfl, rfl, ?_, fun _ _ _ => writeBackground_eq_environment_iff session world,
    reportsOf (translateWorld world).events, reports_perform session _, hsettles.reports,
    ⟨?_, ?_⟩, ?_⟩
  · obtain ⟨added, hadded, hlength⟩ :=
      session.textures.exists_copies_placeAll (imagesOf (translateWorld world).events)
    exact ⟨added, hadded, hlength.trans hsettles.images⟩
  · rintro ⟨report, hreport, hfailure⟩
    exact hsettles.fails report hreport hfailure
  · rintro ⟨surroundings, error, hworld, hfails⟩
    rw [(hsettles.settles surroundings error hworld hfails).1]
    exact ⟨_, List.mem_singleton_self _, Report.isWorldFailure_worldFailed error⟩
  · intro surroundings error hworld hfails
    obtain ⟨hreports, hvalue⟩ := hsettles.settles surroundings error hworld hfails
    refine ⟨hreports, ?_⟩
    show (translateWorld world).value.map _ = _
    rw [hvalue]
    rfl

end Session

/-- A sky at half its strength, without a mapping. -/
def NodeTree.dimSky : NodeTree where
  nodes := [
    { id := "out", idname := "ShaderNodeOutputWorld" },
    { id := "light", idname := "ShaderNodeBackground",
      inputs := .ofList [("Strength", .scalar 0.5)] },
    { id := "sky", idname := "ShaderNodeTexEnvironment", image := some { name := "sky" } }]
  connections := [
    { source := ⟨"light", "Background"⟩, target := ⟨"out", "Surface"⟩ },
    { source := ⟨"sky", "Color"⟩, target := ⟨"light", "Color"⟩ }]

example :
    ((Session.start {}).writeBackground (some { nodeTree := some .dimSky })).1 =
      .environment ⟨"textures/sky.png", 0.5, none⟩ := by
  rfl

end ShadingExport
