import ShadingExport.Session.Basic

/-!
# Exporting a scene

The materials of a scene are visited in order: in convert mode those that objects refer to, once
per reference, in flatten mode all of them. Each visit of a material in use writes it, unless its
exported name is taken. An export starts with the reserved record, and the registry is empty again
after it.
-/

namespace ShadingExport

/-- A step of an export. -/
inductive Visit where
  /-- A material of the scene. -/
  | material (material : HostMaterial)
  /-- A reference of an object to a material that the scene does not have. -/
  | unknown (object material : String)

/-- The visit that a reference of an object asks for: the first material of the name. -/
def Scene.visitOf (scene : Scene) (object : HostObject) (reference : String) : Visit :=
  match scene.material? reference with
  | some material => .material material
  | none => .unknown object.name reference

/-- The steps of an export, in order. -/
def Scene.visits (scene : Scene) : MaterialMode → List Visit
  | .convert => scene.objects.flatMap fun object => object.materials.map (scene.visitOf object)
  | .flatten => scene.materials.map Visit.material

namespace Session

/-- Writes a material as the material mode asks for; tells whether its exported name was free. -/
def writeMaterial (session : Session) (material : HostMaterial) : Bool × Session :=
  match session.settings.materialMode with
  | .convert => session.writeTranslation material
  | .flatten => session.writePlaceholder material

/-- Takes a step of an export. A material that is written is announced. -/
def visit (session : Session) : Visit → Session
  | .unknown object material => session.perform [.report (.unknownMaterial object material)]
  | .material material =>
    if material.isWanted then
      let (added, after) := session.writeMaterial material
      if added then after.perform [.report (.writing material.name)] else after
    else session

/-- The session in which the visits of an export begin: the reserved record is announced and
registered. -/
def begin (session : Session) : Session :=
  ((session.perform [.report .writingDefault]).register reservedName none reservedMaterial).2

/-- Exports the materials of a scene and empties the registry. -/
def writeMaterials (session : Session) (scene : Scene) :
    List (MaterialRecord String) × Session :=
  let after := (scene.visits session.settings.materialMode).foldl visit session.begin
  -- The registry serves one export; the texture directory and the journal outlive it.
  (after.registry.records, { after with registry := .empty })

/-- Exports the background and the materials of a scene, in this order. -/
def writeScene (session : Session) (scene : Scene) : ExportedScene String × Session :=
  let (background, session) := session.writeBackground scene.world
  let (materials, session) := session.writeMaterials scene
  (⟨background, materials⟩, session)

end Session

end ShadingExport
