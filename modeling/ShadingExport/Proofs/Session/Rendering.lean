import ShadingExport.Proofs.Texture.Stability
import ShadingExport.Proofs.Translation.Requests
import ShadingExport.Session.Basic

/-!
# What a session makes of a translation

A session performs the events of a translation: its reports are told, and every image that is asked
for gets the path that it keeps (`Session.path?_perform_append_cons`). The record over images then
becomes one over paths, with every path in its place (`Session.renders_perform`), and an error stays
what it is.
-/

namespace ShadingExport

open Translation

namespace Session

/-- Performing events reports what the events report. -/
theorem reports_perform (session : Session) (events : List Event) :
    (session.perform events).reports = session.reports ++ reportsOf events := by
  rw [reports, journal_perform, reportsOf, List.filterMap_append]
  rfl

/-- The path of an image after all events is the one that it had when it was asked for. -/
theorem path?_perform_append_cons (session : Session) (before : List Event) (image : Image)
    (after : List Event) :
    (session.perform (before ++ .texture image :: after)).textures.path? image =
      some ((session.perform before).textures.path image) := by
  rw [textures_perform, imagesOf_append, imagesOf_cons_texture,
    TextureDirectory.path?_placeAll_append_cons, textures_perform]

/-- A record all of whose images are asked for is rendered by the session afterwards. -/
theorem renders_perform (session : Session) {events : List Event} {skeleton : MaterialRecord Image}
    (h : skeleton.files ⊆ imagesOf events) :
    (session.perform events).textures.Renders skeleton
      (skeleton.map (session.perform events).textures.path) :=
  TextureDirectory.renders_placeAll h

/-- A session gives the record of a translation with paths in place of images. -/
theorem surface_eq_ok_iff {session : Session} {graph : Graph} {node : ShadingNode}
    {name : Option String} {record : MaterialRecord String} :
    (session.surface graph node name).1 = .ok record ↔
      let translation := graph.surface session.settings.glossyMode node name
      ∃ skeleton, translation.outcome = .ok skeleton ∧
        skeleton.map (session.perform translation.events).textures.path = record := by
  dsimp only [surface, run]
  cases (graph.surface session.settings.glossyMode node name).outcome <;> simp [Except.map]

/-- A session gives the error of a translation as it is. -/
theorem surface_eq_error_iff {session : Session} {graph : Graph} {node : ShadingNode}
    {name : Option String} {error : TranslationError} :
    (session.surface graph node name).1 = .error error ↔
      (graph.surface session.settings.glossyMode node name).outcome = .error error := by
  dsimp only [surface, run]
  cases (graph.surface session.settings.glossyMode node name).outcome <;> simp [Except.map]

end Session

end ShadingExport
