import ShadingExport.TextureDirectory
import ShadingExport.Registry
import ShadingExport.Translation.Material
import ShadingExport.Translation.World

/-!
# Sessions

A session is the surroundings of translations: the settings, the records exported so far, the
directory that receives textures, and the journal of everything that happened. Performing the
events of a translation places the images it asked for and extends the journal; a record over
images then becomes a record over paths.
-/

namespace ShadingExport

/-- Why a material is not exported whose exported name is taken by a record of the given host
material: it was met before, another material has the name, or the name is reserved. -/
def HostMaterial.refusal (material : HostMaterial) (holder : Option String) : Event :=
  let name := exportedName material.name
  match holder with
  | some host =>
    -- The host's own name tells a second visit from a clash of two materials.
    if host = material.name then .trace (.alreadyExported name)
    else .report (.nameTaken material.name name host)
  | none => .report (.nameReserved material.name name)

/-- The surroundings of translations. -/
structure Session where
  /-- The settings. -/
  settings : Settings
  /-- The records exported so far. -/
  registry : Registry
  /-- The directory that receives the textures. -/
  textures : TextureDirectory
  /-- Everything that happened, in order. -/
  journal : List Event

namespace Session

/-- The session before anything happened. -/
def start (settings : Settings) : Session :=
  { settings
    registry := .empty
    textures := { directory := settings.textureDirectory }
    journal := [] }

/-- Performs events in order. -/
def perform (session : Session) (events : List Event) : Session :=
  { session with
    textures := session.textures.placeAll (Translation.imagesOf events)
    journal := session.journal ++ events }

/-- The reports so far. -/
def reports (session : Session) : List Report := Translation.reportsOf session.journal

/-- Performs a translation; events before a failure are performed too. -/
def run {α : Type} (session : Session) (translation : Translation α) :
    Except TranslationError α × Session :=
  (translation.outcome, session.perform translation.events)

@[simp] theorem settings_perform (session : Session) (events : List Event) :
    (session.perform events).settings = session.settings := rfl

@[simp] theorem registry_perform (session : Session) (events : List Event) :
    (session.perform events).registry = session.registry := rfl

@[simp] theorem journal_perform (session : Session) (events : List Event) :
    (session.perform events).journal = session.journal ++ events := rfl

@[simp] theorem textures_perform (session : Session) (events : List Event) :
    (session.perform events).textures = session.textures.placeAll (Translation.imagesOf events) :=
  rfl

@[simp] theorem perform_nil (session : Session) : session.perform [] = session := by
  simp [perform, Translation.imagesOf]

/-- Performing events in two steps is performing them in one. -/
@[simp] theorem perform_append (session : Session) (first second : List Event) :
    session.perform (first ++ second) = (session.perform first).perform second := by
  simp [perform, Translation.imagesOf, List.filterMap_append]

/-- Translates a node into a record over paths. -/
def surface (session : Session) (graph : Graph) (node : ShadingNode) (name : Option String) :
    Except TranslationError (MaterialRecord String) × Session :=
  let (outcome, after) := session.run (graph.surface session.settings.glossyMode node name)
  (outcome.map (·.map after.textures.path), after)

/-- Registers a record; tells whether its name was free. -/
def register (session : Session) (name : String) (host : Option String)
    (record : MaterialRecord String) : Bool × Session :=
  let (added, registry) := session.registry.register name host record
  (added, { session with registry })

/-- Why a material is not exported, if its exported name is taken. -/
def refusal? (session : Session) (material : HostMaterial) : Option Event :=
  (session.registry.find? (exportedName material.name)).map fun entry =>
    material.refusal entry.host

/-- Registers the settled translation of a material, unless its exported name is taken; then
nothing of the translation happens. -/
def accept (session : Session) (material : HostMaterial)
    (settled : Settled (MaterialRecord Image)) : Bool × Session :=
  match session.refusal? material with
  | some event => (false, session.perform [event])
  | none =>
    let after := session.perform settled.events
    after.register (exportedName material.name) (some material.name)
      (settled.value.map after.textures.path)

/-- Translates and registers a material; tells whether its exported name was free. -/
def writeTranslation (session : Session) (material : HostMaterial) : Bool × Session :=
  session.accept material (material.translate session.settings.glossyMode)

/-- Registers the placeholder of a material; tells whether its exported name was free. -/
def writePlaceholder (session : Session) (material : HostMaterial) : Bool × Session :=
  session.accept material ⟨[], placeholderMaterial material.name⟩

/-- Translates the world of a scene. -/
def writeBackground (session : Session) (world : Option World) :
    Background String × Session :=
  let settled := translateWorld world
  let after := session.perform settled.events
  (settled.value.map after.textures.path, after)

end Session

end ShadingExport
