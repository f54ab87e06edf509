import ShadingExport.Proofs.Session.ExactlyOnce
import ShadingExport.Proofs.Session.Idempotence

/-!
# The skeleton of an export

An export over images, its skeleton, is decided by the settings and the scene. The export over paths
has the paths of the texture directory in place of the images (`Session.writeScene_fresh`), and an
empty directory receives exactly the images that the scene asks for, each at a path of its own
(`Session.mem_images_fresh`, `Session.coherent_fresh`). So the skeleton can be read back from the
export and the directory (`Session.map_image?_writeScene_fresh`).
-/

namespace ShadingExport

open Translation

namespace ExportedScene

variable {τ σ υ : Type}

/-- Renames the files of an export. -/
def map (rename : τ → σ) (exported : ExportedScene τ) : ExportedScene σ :=
  ⟨exported.background.map rename, exported.materials.map (·.map rename)⟩

@[simp] theorem materials_map (rename : τ → σ) (exported : ExportedScene τ) :
    (exported.map rename).materials = exported.materials.map (·.map rename) := rfl

/-- The files of an export: that of the background, then those in the records, at any depth. -/
def files (exported : ExportedScene τ) : List τ :=
  exported.background.files ++ exported.materials.flatMap MaterialRecord.files

/-- The files of a renamed export are the renamed files. -/
@[simp] theorem files_map (rename : τ → σ) (exported : ExportedScene τ) :
    (exported.map rename).files = exported.files.map rename := by
  simp only [map, files, Background.files_map, List.map_append, List.map_flatMap, List.flatMap_map,
    MaterialRecord.files_map]

/-- Renaming twice is renaming once. -/
@[simp] theorem map_map (earlier : τ → σ) (later : σ → υ) (exported : ExportedScene τ) :
    (exported.map earlier).map later = exported.map (later ∘ earlier) := by
  obtain ⟨background, materials⟩ := exported
  simp only [map, Background.map_map, List.map_map, Function.comp_def, MaterialRecord.map_map]

/-- Renamings that agree on the files of an export rename it alike. -/
theorem map_congr {first second : τ → σ} {exported : ExportedScene τ}
    (h : ∀ file ∈ exported.files, first file = second file) :
    exported.map first = exported.map second := by
  rw [files, List.forall_mem_append, List.forall_mem_flatMap] at h
  rw [map, map, Background.map_congr h.1]
  congr 1
  exact List.map_congr_left fun record hrecord => MaterialRecord.map_congr (h.2 record hrecord)

/-- Renaming files keeps the names of the records. -/
@[simp] theorem map_name_materials_map (rename : τ → σ) (exported : ExportedScene τ) :
    (exported.map rename).materials.map MaterialRecord.name =
      exported.materials.map MaterialRecord.name := by
  rw [materials_map, List.map_map]
  exact List.map_congr_left fun record _ => record.name_map rename

end ExportedScene

namespace Scene

variable {scene : Scene} {settings : Settings} {image : Image}

/-- The export of a scene over images: what becomes of its world, then the reserved record and what
becomes of the materials that are written. -/
def skeleton (scene : Scene) (settings : Settings) : ExportedScene Image where
  background := (translateWorld scene.world).value
  materials := reservedMaterial :: (written (scene.wanted settings.materialMode)).map fun material =>
    (material.settled settings).value

/-- What an export gives is its skeleton with the paths of a directory. -/
theorem render_eq (scene : Scene) (settings : Settings) (textures : TextureDirectory) :
    scene.render settings textures = (scene.skeleton settings).map textures.path := by
  rw [render, Plan.lists_ofScene, ExportedScene.map, skeleton, List.map_cons, List.map_cons,
    List.map_map, List.map_map]
  rfl

/-- The images that an export asks for: those of the world and of the materials that are written. -/
theorem mem_imagesOf_events :
    image ∈ imagesOf (scene.events settings) ↔
      image ∈ imagesOf (translateWorld scene.world).events ∨
        ∃ material ∈ written (scene.wanted settings.materialMode),
          image ∈ imagesOf (material.settled settings).events := by
  rw [events, imagesOf_append, Plan.imagesOf_events_ofScene, List.mem_append, List.mem_flatMap]

/-- The images of the skeleton: those of the background and of the written records. -/
theorem mem_files_skeleton :
    image ∈ (scene.skeleton settings).files ↔
      image ∈ (translateWorld scene.world).value.files ∨
        ∃ material ∈ written (scene.wanted settings.materialMode),
          image ∈ (material.settled settings).value.files := by
  rw [ExportedScene.files, skeleton, List.mem_append, List.flatMap_cons, List.flatMap_map,
    List.mem_append, List.mem_flatMap]
  exact or_congr_right (or_iff_right List.not_mem_nil)

/-- Every image of the skeleton is asked for. -/
theorem files_skeleton_subset (scene : Scene) (settings : Settings) :
    (scene.skeleton settings).files ⊆ imagesOf (scene.events settings) := by
  intro image himage
  rw [mem_imagesOf_events]
  rcases mem_files_skeleton.mp himage with hworld | ⟨material, hmaterial, hfile⟩
  · exact .inl (files_translateWorld_subset scene.world hworld)
  · exact .inr ⟨material, hmaterial, (material.settled_spec settings).2 hfile⟩

/-- No two records of a skeleton have the same name. -/
theorem nodup_map_name_skeleton (scene : Scene) (settings : Settings) :
    ((scene.skeleton settings).materials.map MaterialRecord.name).Nodup := by
  have hnames : (scene.skeleton settings).materials.map MaterialRecord.name =
      (reservedName :: exportedNames (scene.wanted settings.materialMode)).map some := by
    rw [skeleton, List.map_cons, List.map_cons, List.map_map, ← map_exportedName_written,
      List.map_map]
    congr 1
    exact List.map_congr_left fun material _ => (material.settled_spec settings).1
  rw [hnames]
  exact (nodup_reservedName_cons_exportedNames _).map fun _ _ => Option.some.inj

end Scene

namespace Session

variable {settings : Settings} {directory : String} {journal : List Event} {scene : Scene}
  {image : Image}

/-- A session in which nothing has been exported and an empty directory receives the textures. -/
def fresh (settings : Settings) (directory : String) (journal : List Event) : Session where
  settings := settings
  registry := .empty
  textures := { directory }
  journal := journal

/-- **A fresh export in closed form**: the skeleton with the paths that the directory has once the
images of the scene have been placed. -/
theorem writeScene_fresh (settings : Settings) (directory : String) (journal : List Event)
    (scene : Scene) :
    (fresh settings directory journal).writeScene scene =
      ((scene.skeleton settings).map
        ((fresh settings directory journal).perform (scene.events settings)).textures.path,
        (fresh settings directory journal).perform (scene.events settings)) := by
  rw [writeScene_eq rfl, Scene.render_eq]
  rfl

/-- A fresh export has records of the same names as its skeleton. -/
theorem map_name_writeScene_fresh :
    ((fresh settings directory journal).writeScene scene).1.materials.map MaterialRecord.name =
      (scene.skeleton settings).materials.map MaterialRecord.name := by
  rw [writeScene_fresh, ExportedScene.map_name_materials_map]

/-- After a fresh export every image has one place, and every place one image. -/
theorem coherent_fresh (settings : Settings) (directory : String) (journal : List Event)
    (scene : Scene) :
    ((fresh settings directory journal).perform (scene.events settings)).textures.Coherent :=
  (TextureDirectory.coherent_of_placements_eq_nil rfl).placeAll _

/-- A fresh export places the images that its scene asks for. -/
theorem mem_images_fresh :
    image ∈ ((fresh settings directory journal).perform
        (scene.events settings)).textures.images ↔
      image ∈ imagesOf (scene.events settings) :=
  TextureDirectory.mem_images_placeAll rfl

/-- **A fresh export can be read back**: with the images that have been placed at its paths, it is
the skeleton of its scene. -/
theorem map_image?_writeScene_fresh (settings : Settings) (directory : String)
    (journal : List Event) (scene : Scene) :
    let exported := ((fresh settings directory journal).writeScene scene).1
    let textures := ((fresh settings directory journal).writeScene scene).2.textures
    exported.map textures.image? = (scene.skeleton settings).map some := by
  rw [writeScene_fresh]
  dsimp only
  rw [ExportedScene.map_map]
  refine ExportedScene.map_congr fun image himage => ?_
  exact (coherent_fresh settings directory journal scene).image?_path
    (mem_images_fresh.mpr (scene.files_skeleton_subset settings himage))

/-- A record of a fresh export can be read back: it is a record of the skeleton. -/
theorem exists_mem_skeleton_of_mem_writeScene_fresh {record : MaterialRecord String}
    (h : record ∈ ((fresh settings directory journal).writeScene scene).1.materials) :
    ∃ original ∈ (scene.skeleton settings).materials, original.name = record.name ∧
      record.map ((fresh settings directory journal).writeScene scene).2.textures.image? =
        original.map some := by
  have hmaterials := congrArg ExportedScene.materials
    (map_image?_writeScene_fresh settings directory journal scene)
  have hread := List.mem_map_of_mem (f := MaterialRecord.map
    ((fresh settings directory journal).writeScene scene).2.textures.image?) h
  rw [← ExportedScene.materials_map, hmaterials, ExportedScene.materials_map, List.mem_map] at hread
  obtain ⟨original, horiginal, heq⟩ := hread
  have hname : original.name = record.name := by
    rw [← original.name_map some, heq, MaterialRecord.name_map]
  exact ⟨original, horiginal, hname, heq.symm⟩

end Session

end ShadingExport
