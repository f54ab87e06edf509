import ShadingExport.Proofs.Session.Rendering
import ShadingExport.Proofs.Session.Plan

/-!
# Exporting again

An export has a closed form (`Session.writeScene_eq`): the settings and the scene alone decide its
events and its records over images, and the paths are those of the texture directory in which all
images of these events have been placed. A second export of the scene asks for the same images, all
of which have their paths by then, so it places none and gives the same records.
-/

namespace ShadingExport

open Translation

/-! ## An export in closed form -/

/-- The events of an export: those of the background, then those of the materials. -/
def Scene.events (scene : Scene) (settings : Settings) : List Event :=
  (translateWorld scene.world).events ++ (Plan.ofScene settings scene).events

/-- The scene that an export gives with the paths of a directory. -/
def Scene.render (scene : Scene) (settings : Settings) (textures : TextureDirectory) :
    ExportedScene String :=
  ⟨(translateWorld scene.world).value.map textures.path,
    (Plan.ofScene settings scene).entries.map fun entry => entry.skeleton.map textures.path⟩

namespace Session

variable {session after : Session} {plan : Plan}

/-- Once the registry is empty again, only the events of the plan are left. -/
theorem CarriesOut.emptied (h : session.CarriesOut plan after)
    (hempty : session.registry = .empty) :
    { after with registry := .empty } = session.perform plan.events := by
  rw [h.settings_eq, h.textures_eq, h.journal_eq, ← hempty]
  rfl

theorem CarriesOut.records_eq (h : session.CarriesOut plan after) :
    after.registry.records =
      plan.entries.map fun entry => entry.skeleton.map after.textures.path := by
  rw [Registry.records, h.entries_eq, List.map_map]
  rfl

/-- **An export in closed form**: it performs the events that settings and scene decide, and gives
what they decide with the paths that the texture directory has afterwards. -/
theorem writeScene_eq (hempty : session.registry = .empty) (scene : Scene) :
    session.writeScene scene =
      (scene.render session.settings (session.perform (scene.events session.settings)).textures,
        session.perform (scene.events session.settings)) := by
  let between := session.perform (translateWorld scene.world).events
  have hbetween : between.registry = .empty := hempty
  have hcarries : between.CarriesOut (.ofScene session.settings scene) (between.filled scene) :=
    carriesOut_filled hbetween scene
  have hafter : { between.filled scene with registry := .empty } =
      session.perform (scene.events session.settings) := by
    rw [hcarries.emptied hbetween, Scene.events, perform_append]
  have htextures : (between.filled scene).textures =
      (session.perform (scene.events session.settings)).textures := by
    rw [← hafter]
  -- The images of the background have their paths before any material is visited.
  have hbackground : (translateWorld scene.world).value.map between.textures.path =
      (translateWorld scene.world).value.map
        (session.perform (scene.events session.settings)).textures.path := by
    refine Background.map_congr fun image himage => ?_
    have hasked := files_translateWorld_subset scene.world himage
    rw [Scene.events, perform_append,
      textures_perform _ (Plan.ofScene session.settings scene).events,
      TextureDirectory.path_placeAll_of_isSome]
    exact TextureDirectory.isSome_path?_placeAll hasked
  show ((⟨(translateWorld scene.world).value.map between.textures.path,
    (between.filled scene).registry.records⟩ : ExportedScene String),
    ({ between.filled scene with registry := .empty } : Session)) = _
  rw [hafter, hbackground, hcarries.records_eq, htextures]
  rfl

/-! ## The second export -/

/-- Once all images of some events have their paths, the events place nothing. -/
theorem textures_perform_perform (session : Session) (events : List Event) :
    ((session.perform events).perform events).textures = (session.perform events).textures := by
  rw [textures_perform (session.perform events)]
  exact TextureDirectory.placeAll_eq_self fun image himage =>
    TextureDirectory.isSome_path?_placeAll himage

/-- **Exporting a scene again repeats the export**: the second export gives the same background and
the same records, paths included; it places no texture, so that no copy is added; it reports what
the first one reported; and the registry is empty again. -/
theorem writeScene_again (session : Session) (hempty : session.registry = .empty) (scene : Scene) :
    let first := session.writeScene scene
    let second := first.2.writeScene scene
    second.1 = first.1 ∧ second.2.textures = first.2.textures ∧
      (∃ reports, first.2.reports = session.reports ++ reports ∧
        second.2.reports = first.2.reports ++ reports) ∧
      second.2.registry = .empty := by
  let events := scene.events session.settings
  have hfirst : session.writeScene scene =
      (scene.render session.settings (session.perform events).textures, session.perform events) :=
    writeScene_eq hempty scene
  -- The second export starts with the same settings and an empty registry, so it has these events.
  have hempty' : (session.perform events).registry = .empty := hempty
  have hsecond : (session.perform events).writeScene scene =
      (scene.render session.settings (session.perform events).textures,
        (session.perform events).perform events) := by
    rw [writeScene_eq hempty']
    show (scene.render _ ((session.perform events).perform events).textures, _) = _
    rw [textures_perform_perform]
    rfl
  dsimp only
  rw [hfirst, hsecond]
  exact ⟨rfl, textures_perform_perform session events,
    ⟨reportsOf events, reports_perform session events, reports_perform _ events⟩, hempty⟩

end Session

/-- A scene with one material, diffuse with a texture. -/
def Scene.woodenBox : Scene where
  materials := [{
    name := "Wood"
    nodeTree := some {
      nodes := [
        { id := "output", idname := "ShaderNodeOutputMaterial" },
        { id := "wood", idname := "ShaderNodeBsdfDiffuse" },
        { id := "grain", idname := "ShaderNodeTexImage",
          image := some { name := "grain", filepath := "//grain.png" } }]
      connections := [
        { source := ⟨"wood", "BSDF"⟩, target := ⟨"output", "Surface"⟩ },
        { source := ⟨"grain", "Color"⟩, target := ⟨"wood", "Color"⟩ }] } }]
  objects := [{ name := "Box", materials := ["Wood"] }]

/-- The second export of the box gives what the first gives and does not copy the grain again. -/
theorem Session.writeScene_woodenBox_again :
    (Session.start {}).registry = .empty ∧
      (let first := (Session.start {}).writeScene .woodenBox
        let second := first.2.writeScene .woodenBox
        second.1 = first.1 ∧ first.2.textures.copies = [("//grain.png", "textures/grain.png")] ∧
          second.2.textures.copies = [("//grain.png", "textures/grain.png")]) := by
  have hempty : (Session.start {}).registry = .empty := rfl
  have hcopies : ((Session.start {}).writeScene .woodenBox).2.textures.copies =
      [("//grain.png", "textures/grain.png")] := by decide +kernel
  obtain ⟨hsame, htextures, -⟩ := writeScene_again (Session.start {}) hempty .woodenBox
  refine ⟨hempty, hsame, hcopies, ?_⟩
  rw [htextures]
  exact hcopies

end ShadingExport
