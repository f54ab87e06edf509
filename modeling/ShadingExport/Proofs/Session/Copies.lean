import ShadingExport.Proofs.Session.Skeleton

/-!
# References and copies

The textures that an export refers to and the copies that it leaves due belong together. Every
reference is to the destination of one copy, whose source is the file of the image that the
reference was translated from (`Session.writeScene_references`). Every copy is referred to, unless
its image was asked for in vain (`Session.writeScene_copies`): images are placed when they are asked
for, and they stay when the translation fails later or when smooth glass has no use for them
(`Session.writeScene_unreferenced`).
-/

namespace ShadingExport

open Translation

/-- A reference in the record of a written material leads to a texture of the material. -/
theorem HostMaterial.samples_of_mem_references_settled {material : HostMaterial}
    {settings : Settings} {reference : Reference Image}
    (h : reference ∈ (material.settled settings).value.references) :
    material.Samples reference.inputs reference.file := by
  unfold settled at h
  cases hmode : settings.materialMode with
  | convert =>
    rw [hmode] at h
    exact samples_of_mem_references h
  | flatten =>
    rw [hmode] at h
    cases h

namespace Session

/-- **No dangling texture reference.** The records and the background of a fresh export are those of
a skeleton over images, with the paths of the texture directory. Every image of the skeleton comes
from a texture: that of the background from the environment texture of the world, and those of a
record from the textures that their inputs lead to in the first wanted material of the record's
name. Every file of the export is the destination of exactly one copy, whose source is the host path
of the image that the file stands for; and different images never share a file. -/
theorem writeScene_references (settings : Settings) (directory : String) (journal : List Event)
    (scene : Scene) :
    let exported := ((fresh settings directory journal).writeScene scene).1
    let textures := ((fresh settings directory journal).writeScene scene).2.textures
    ∃ skeleton : ExportedScene Image,
      exported = skeleton.map textures.path ∧
      (∀ image ∈ skeleton.background.files, ∃ world, scene.world = some world ∧
        world.Samples image) ∧
      (∀ record ∈ skeleton.materials, ∀ reference ∈ record.references, ∃ name material,
        record.name = some name ∧
        firstNamed? (scene.wanted settings.materialMode) name = some material ∧
        material.Samples reference.inputs reference.file) ∧
      (∀ file ∈ exported.files, ∃ image ∈ skeleton.files, file = textures.path image ∧
        textures.copies.filter (·.2 = file) = [(image.filepath, file)]) ∧
      (∀ image ∈ skeleton.files, ∀ other ∈ skeleton.files,
        textures.path image = textures.path other → image = other) := by
  rw [writeScene_fresh]
  intro exported textures
  have hcoherent : textures.Coherent := coherent_fresh settings directory journal scene
  have hplaced : ∀ image ∈ (scene.skeleton settings).files, image ∈ textures.images :=
    fun image himage => mem_images_fresh.mpr (scene.files_skeleton_subset settings himage)
  refine ⟨scene.skeleton settings, rfl, ?_, ?_, ?_, ?_⟩
  · intro image himage
    exact samples_of_mem_files_translateWorld himage
  · intro record hrecord reference hreference
    rcases List.mem_cons.mp hrecord with rfl | hwritten
    · -- The reserved record is flat.
      cases hreference
    · obtain ⟨material, hmaterial, rfl⟩ := List.mem_map.mp hwritten
      exact ⟨exportedName material.name, material, (material.settled_spec settings).1,
        firstNamed?_of_mem_written hmaterial,
        HostMaterial.samples_of_mem_references_settled hreference⟩
  · intro file hfile
    obtain ⟨image, himage, rfl⟩ := List.mem_map.mp (ExportedScene.files_map _ _ ▸ hfile)
    exact ⟨image, himage, rfl, hcoherent.filter_copies_eq (hplaced image himage)⟩
  · intro image himage other hother
    exact hcoherent.eq_of_path_eq (hplaced image himage) (hplaced other hother)

end Session

/-! ## Copies that nothing refers to -/

/-- A scene asks for an image in vain: the translation of its world, or of a material that is
written, asks for it and fails, or the material has smooth glass that discards it. -/
def Scene.AsksInVain (scene : Scene) (settings : Settings) (image : Image) : Prop :=
  (∃ world, scene.world = some world ∧ world.Abandons image) ∨
    settings.materialMode = .convert ∧ ∃ material ∈ written (scene.wanted .convert),
      material.Abandons settings.glossyMode image ∨ material.Discards image

/-- What a written material asks for is in its record, unless it was asked for in vain. -/
theorem HostMaterial.mem_files_settled {material : HostMaterial} {settings : Settings}
    {image : Image} (h : image ∈ imagesOf (material.settled settings).events) :
    image ∈ (material.settled settings).value.files ∨ settings.materialMode = .convert ∧
      (material.Abandons settings.glossyMode image ∨ material.Discards image) := by
  unfold settled at h ⊢
  cases hmode : settings.materialMode with
  | convert =>
    rw [hmode] at h
    exact (mem_files_of_mem_imagesOf h).imp_right fun hvain => ⟨rfl, hvain.symm⟩
  | flatten =>
    rw [hmode] at h
    cases h

/-- What a scene asks for is in its skeleton, unless it was asked for in vain. -/
theorem Scene.mem_files_skeleton_of_mem_imagesOf {scene : Scene} {settings : Settings}
    {image : Image} (h : image ∈ imagesOf (scene.events settings)) :
    image ∈ (scene.skeleton settings).files ∨ scene.AsksInVain settings image := by
  rw [mem_files_skeleton]
  rcases mem_imagesOf_events.mp h with hworld | ⟨material, hmaterial, hasked⟩
  · rcases mem_files_translateWorld hworld with hfile | hvain
    · exact .inl (.inl hfile)
    · exact .inr (.inl hvain)
  · rcases material.mem_files_settled hasked with hfile | ⟨hconvert, hvain⟩
    · exact .inl (.inr ⟨material, hmaterial, hfile⟩)
    · rw [hconvert] at hmaterial
      exact .inr (.inr ⟨hconvert, material, hmaterial, hvain⟩)

/-- A scene that asks for three images in vain: the mapping of its environment texture has no
coordinates, the normals of its table are fed by a node that gives no color, and its window is of
smooth glass with a textured roughness. -/
def Scene.workshop : Scene where
  materials := [
    { name := "Table"
      nodeTree := some {
        nodes := [
          { id := "output", idname := "ShaderNodeOutputMaterial" },
          { id := "wood", idname := "ShaderNodeBsdfDiffuse" },
          { id := "grain", idname := "ShaderNodeTexImage",
            image := some { name := "grain", filepath := "//grain.png" } },
          { id := "rim", idname := "ShaderNodeFresnel" }]
        connections := [
          { source := ⟨"wood", "BSDF"⟩, target := ⟨"output", "Surface"⟩ },
          { source := ⟨"grain", "Color"⟩, target := ⟨"wood", "Color"⟩ },
          { source := ⟨"rim", "Fac"⟩, target := ⟨"wood", "Normal"⟩ }] } },
    { name := "Window"
      nodeTree := some {
        nodes := [
          { id := "output", idname := "ShaderNodeOutputMaterial" },
          { id := "pane", idname := "ShaderNodeBsdfGlass", inputs := .ofList [("IOR", .scalar 1.5)],
            params := .ofList [("distribution", ⟨.string "SHARP", rfl⟩)] },
          { id := "frost", idname := "ShaderNodeTexImage",
            image := some { name := "frost", filepath := "//frost.png" } }]
        connections := [
          { source := ⟨"pane", "BSDF"⟩, target := ⟨"output", "Surface"⟩ },
          { source := ⟨"frost", "Color"⟩, target := ⟨"pane", "Roughness"⟩ }] } }]
  objects := [{ name := "Room", materials := ["Table", "Window"] }]
  world := some {
    nodeTree := some {
      nodes := [
        { id := "output", idname := "ShaderNodeOutputWorld" },
        { id := "light", idname := "ShaderNodeBackground",
          inputs := .ofList [("Strength", .scalar 1)] },
        { id := "sky", idname := "ShaderNodeTexEnvironment",
          image := some { name := "sky", filepath := "//sky.hdr" } },
        { id := "turn", idname := "ShaderNodeMapping" }]
      connections := [
        { source := ⟨"light", "Background"⟩, target := ⟨"output", "Surface"⟩ },
        { source := ⟨"sky", "Color"⟩, target := ⟨"light", "Color"⟩ },
        { source := ⟨"turn", "Vector"⟩, target := ⟨"sky", "Vector"⟩ }] } }

namespace Session

/-- The workshop leaves three copies due, and its export refers to none of them. -/
theorem writeScene_unreferenced :
    let exported := ((fresh {} "textures" []).writeScene .workshop).1
    let textures := ((fresh {} "textures" []).writeScene .workshop).2.textures
    textures.copies = [("//sky.hdr", "textures/sky.hdr"), ("//grain.png", "textures/grain.png"),
        ("//frost.png", "textures/frost.png")] ∧
      exported.files = [] := by
  decide +kernel

/-- **Copies are referred to.** After a fresh export every copy that is due leads to a file of the
export, unless its image was asked for in vain: by a translation that failed later, of the world or
of a written material, or for the roughness of smooth glass. -/
theorem writeScene_copies (settings : Settings) (directory : String) (journal : List Event)
    (scene : Scene) :
    let exported := ((fresh settings directory journal).writeScene scene).1
    let textures := ((fresh settings directory journal).writeScene scene).2.textures
    ∀ copy ∈ textures.copies, copy.2 ∈ exported.files ∨
      ∃ image, copy = (image.filepath, textures.path image) ∧
        scene.AsksInVain settings image := by
  rw [writeScene_fresh]
  intro exported textures copy hcopy
  have hcoherent : textures.Coherent := coherent_fresh settings directory journal scene
  rw [hcoherent.copies_eq] at hcopy
  obtain ⟨image, himage, rfl⟩ := List.mem_map.mp hcopy
  rcases scene.mem_files_skeleton_of_mem_imagesOf (mem_images_fresh.mp himage) with hfile | hvain
  · left
    show _ ∈ ((scene.skeleton settings).map textures.path).files
    rw [ExportedScene.files_map]
    exact List.mem_map_of_mem hfile
  · exact .inr ⟨image, rfl, hvain⟩

/-- The frost of the workshop's window is copied and not referred to: it was asked for in vain. -/
theorem writeScene_copies_workshop :
    ("//frost.png", "textures/frost.png") ∈
        ((fresh {} "textures" []).writeScene .workshop).2.textures.copies ∧
      ∃ image, image.filepath = "//frost.png" ∧ Scene.workshop.AsksInVain {} image := by
  have hcopy : ("//frost.png", "textures/frost.png") ∈
      ((fresh {} "textures" []).writeScene .workshop).2.textures.copies := by decide +kernel
  have hunreferenced : "textures/frost.png" ∉
      ((fresh {} "textures" []).writeScene .workshop).1.files := by decide +kernel
  refine ⟨hcopy, ?_⟩
  rcases writeScene_copies {} "textures" [] .workshop _ hcopy with hfile | ⟨image, heq, hvain⟩
  · exact absurd hfile hunreferenced
  · exact ⟨image, (congrArg Prod.fst heq).symm, hvain⟩

end Session

end ShadingExport
