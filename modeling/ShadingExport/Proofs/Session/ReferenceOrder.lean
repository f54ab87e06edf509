import ShadingExport.Proofs.Session.Skeleton

/-!
# The order of references

In convert mode the objects of a scene say which materials are exported. Which ones they are depends
on the set of names that are referred to, and where different materials have different exported
names, so does which ones are written (`Scene.mem_written_wanted`). What becomes of a material is a
matter of the material alone, so scenes that refer to the same names have the same skeleton up to
the order of the records (`Scene.SameReferences.materials_skeleton_perm`). The paths of the textures
may differ, but they stand for the same images (`Session.writeScene_reference_order`).
-/

namespace ShadingExport

open Translation

namespace Scene

/-- An object of the scene refers to a material name. -/
def Refers (scene : Scene) (name : String) : Prop :=
  ∃ object ∈ scene.objects, name ∈ object.materials

/-- The materials that a convert-mode export wants have exported names that tell their host names
apart. -/
def TellsApart (scene : Scene) : Prop :=
  ∀ material ∈ scene.wanted .convert, ∀ other ∈ scene.wanted .convert,
    exportedName material.name = exportedName other.name → material.name = other.name

instance (scene : Scene) : Decidable scene.TellsApart :=
  inferInstanceAs (Decidable (∀ material ∈ scene.wanted .convert,
    ∀ other ∈ scene.wanted .convert, exportedName material.name = exportedName other.name →
      material.name = other.name))

variable {scene other : Scene} {settings : Settings} {material : HostMaterial} {image : Image}

/-! ## Which materials are written -/

/-- The wanted materials of an export in convert mode are those in use that are the first of a name
that is referred to. -/
theorem mem_wanted_convert :
    material ∈ scene.wanted .convert ↔ scene.Refers material.name ∧
      scene.material? material.name = some material ∧ material.isWanted = true := by
  rw [wanted, visited, List.mem_filter, List.mem_flatMap]
  constructor
  · rintro ⟨⟨object, hobject, hvisited⟩, hwanted⟩
    obtain ⟨name, hname, hfound⟩ := List.mem_filterMap.mp hvisited
    have hsame : material.name = name := by simpa using List.find?_some hfound
    rw [hsame]
    exact ⟨⟨object, hobject, hname⟩, hfound, hwanted⟩
  · rintro ⟨⟨object, hobject, hname⟩, hfound, hwanted⟩
    exact ⟨⟨object, hobject, List.mem_filterMap.mpr ⟨_, hname, hfound⟩⟩, hwanted⟩

/-- A material that is wanted in convert mode is known by its name. -/
theorem eq_of_mem_wanted_convert {same : HostMaterial} (h : material ∈ scene.wanted .convert)
    (hsame : same ∈ scene.wanted .convert) (hname : material.name = same.name) :
    material = same := by
  have hfound := (mem_wanted_convert.mp h).2.1
  rw [hname, (mem_wanted_convert.mp hsame).2.1] at hfound
  exact (Option.some.inj hfound).symm

/-- If exported names tell the wanted materials apart, all of them are written whose exported name
is not reserved. -/
theorem mem_written_wanted (h : scene.TellsApart) :
    material ∈ written (scene.wanted .convert) ↔
      material ∈ scene.wanted .convert ∧ exportedName material.name ≠ reservedName := by
  rw [mem_written]
  constructor
  · rintro ⟨hreserved, hfirst⟩
    exact ⟨List.mem_of_find?_eq_some hfirst, hreserved⟩
  · rintro ⟨hmem, hreserved⟩
    obtain ⟨first, hfirst, hexported⟩ :=
      exists_firstNamed?_of_mem (mem_exportedNames.mpr ⟨hreserved, material, hmem, rfl⟩)
    have hfirstMem : first ∈ scene.wanted .convert := List.mem_of_find?_eq_some hfirst
    -- The first material of the exported name has the host name too, so it is the material.
    have hsame := eq_of_mem_wanted_convert hfirstMem hmem (h first hfirstMem material hmem hexported)
    exact ⟨hreserved, hsame ▸ hfirst⟩

/-! ## Scenes that refer to the same names -/

/-- Two scenes have the same materials and the same world, and their objects refer to the same
material names: in any order, by whichever objects, and however often. -/
structure SameReferences (scene other : Scene) : Prop where
  /-- The materials are the same. -/
  materials_eq : scene.materials = other.materials
  /-- The world is the same. -/
  world_eq : scene.world = other.world
  /-- The names referred to are the same. -/
  refers_iff : ∀ name, scene.Refers name ↔ other.Refers name

/-- Scenes that refer to the same names want the same materials. -/
theorem SameReferences.mem_wanted_iff (h : scene.SameReferences other) :
    material ∈ scene.wanted .convert ↔ material ∈ other.wanted .convert := by
  rw [mem_wanted_convert, mem_wanted_convert, h.refers_iff, material?, material?, h.materials_eq]

theorem SameReferences.tellsApart (h : scene.SameReferences other) (hscene : scene.TellsApart) :
    other.TellsApart := by
  intro material hmaterial second hsecond
  exact hscene material (h.mem_wanted_iff.mpr hmaterial) second (h.mem_wanted_iff.mpr hsecond)

/-- **Scenes that refer to the same names write the same materials**, maybe in another order. -/
theorem SameReferences.written_perm (h : scene.SameReferences other) (hscene : scene.TellsApart) :
    (written (scene.wanted .convert)).Perm (written (other.wanted .convert)) := by
  rw [List.perm_ext_iff_of_nodup (nodup_written _) (nodup_written _)]
  intro material
  rw [mem_written_wanted hscene, mem_written_wanted (h.tellsApart hscene), h.mem_wanted_iff]

/-- **Scenes that refer to the same names have the same records over images**, maybe in another
order. -/
theorem SameReferences.materials_skeleton_perm (h : scene.SameReferences other)
    (hscene : scene.TellsApart) (hconvert : settings.materialMode = .convert) :
    (scene.skeleton settings).materials.Perm (other.skeleton settings).materials := by
  rw [skeleton, skeleton, hconvert]
  exact ((h.written_perm hscene).map _).cons _

/-- Scenes that refer to the same names ask for the same images. -/
theorem SameReferences.mem_imagesOf_events_iff (h : scene.SameReferences other)
    (hscene : scene.TellsApart) (hconvert : settings.materialMode = .convert) :
    image ∈ imagesOf (scene.events settings) ↔ image ∈ imagesOf (other.events settings) := by
  rw [mem_imagesOf_events, mem_imagesOf_events, h.world_eq, hconvert]
  refine or_congr_right (exists_congr fun material => ?_)
  rw [(h.written_perm hscene).mem_iff]

end Scene

namespace Session

variable {settings : Settings} {directory directory' : String} {journal journal' : List Event}
  {scene scene' : Scene}

/-- Fresh exports of scenes that refer to the same names copy the same images. -/
theorem images_writeScene_perm (hsame : scene.SameReferences scene') (hnames : scene.TellsApart)
    (hconvert : settings.materialMode = .convert) :
    ((fresh settings directory journal).writeScene scene).2.textures.images.Perm
      ((fresh settings directory' journal').writeScene scene').2.textures.images := by
  rw [writeScene_fresh, writeScene_fresh,
    List.perm_ext_iff_of_nodup (coherent_fresh ..).nodup_images (coherent_fresh ..).nodup_images]
  intro image
  rw [mem_images_fresh, mem_images_fresh, hsame.mem_imagesOf_events_iff hnames hconvert]

/-- **The order of references does not matter.** Let two scenes have the same materials and the same
world, and let their objects refer to the same material names, in any order, by whichever objects
and however often. If the exported names of the materials that are wanted tell their host names
apart, fresh exports of the scenes in convert mode have records of the same names; records of one
name are the same once the images that have been placed at their paths stand in for the paths; and
the same images are copied. -/
theorem writeScene_reference_order (settings : Settings)
    (hconvert : settings.materialMode = .convert) (directory directory' : String)
    (journal journal' : List Event) (scene scene' : Scene) (hsame : scene.SameReferences scene')
    (hnames : scene.TellsApart) :
    let exported := ((fresh settings directory journal).writeScene scene).1
    let textures := ((fresh settings directory journal).writeScene scene).2.textures
    let exported' := ((fresh settings directory' journal').writeScene scene').1
    let textures' := ((fresh settings directory' journal').writeScene scene').2.textures
    (exported.materials.map MaterialRecord.name).Perm
        (exported'.materials.map MaterialRecord.name) ∧
      (∀ record ∈ exported.materials, ∀ record' ∈ exported'.materials,
        record.name = record'.name →
          record.map textures.image? = record'.map textures'.image?) ∧
      textures.images.Perm textures'.images := by
  intro exported textures exported' textures'
  have hperm := hsame.materials_skeleton_perm hnames hconvert
  refine ⟨?_, ?_, ?_⟩
  · rw [map_name_writeScene_fresh, map_name_writeScene_fresh]
    exact hperm.map _
  · intro record hrecord record' hrecord' hname
    obtain ⟨original, horiginal, hkept, hread⟩ :=
      exists_mem_skeleton_of_mem_writeScene_fresh hrecord
    obtain ⟨original', horiginal', hkept', hread'⟩ :=
      exists_mem_skeleton_of_mem_writeScene_fresh hrecord'
    -- Both are records of one skeleton, where names are different.
    have heq : original = original' :=
      List.inj_on_of_nodup_map (scene.nodup_map_name_skeleton settings) horiginal
        (hperm.mem_iff.mpr horiginal') (hkept.trans (hname.trans hkept'.symm))
    rw [hread, hread', heq]
  · exact images_writeScene_perm hsame hnames hconvert

end Session

/-- A diffuse material with a texture for its color. -/
def HostMaterial.painted (name filepath : String) : HostMaterial where
  name := name
  nodeTree := some {
    nodes := [
      { id := "output", idname := "ShaderNodeOutputMaterial" },
      { id := "matte", idname := "ShaderNodeBsdfDiffuse" },
      { id := "paint", idname := "ShaderNodeTexImage", image := some { name, filepath } }]
    connections := [
      { source := ⟨"matte", "BSDF"⟩, target := ⟨"output", "Surface"⟩ },
      { source := ⟨"paint", "Color"⟩, target := ⟨"matte", "Color"⟩ }] }

/-- A scene with a floor and a wall whose textures have one file name, and objects that refer to
them. -/
def Scene.gallery (references : List (List String)) : Scene where
  materials := [.painted "Floor" "//wood/paint.png", .painted "Red Wall" "//red/paint.png"]
  objects := references.map fun names => { name := "Room", materials := names }

/-- Where the wall of the gallery is met first, it has the path that the floor had; the records are
the same once the images stand in for their paths. -/
theorem Session.writeScene_reference_order_gallery :
    let plain := (fresh {} "textures" []).writeScene (.gallery [["Floor", "Red Wall"]])
    let mixed := (fresh {} "textures" []).writeScene
      (.gallery [["Red Wall", "Red Wall"], ["Floor", "Red Wall"]])
    plain.1.materials.map (fun record => (record.name, record.files)) =
        [(some "default", []), (some "Floor", ["textures/paint.png"]),
          (some "Red_Wall", ["textures/1_paint.png"])] ∧
      mixed.1.materials.map (fun record => (record.name, record.files)) =
        [(some "default", []), (some "Red_Wall", ["textures/paint.png"]),
          (some "Floor", ["textures/1_paint.png"])] ∧
      (∀ record ∈ plain.1.materials, ∀ record' ∈ mixed.1.materials, record.name = record'.name →
        record.map plain.2.textures.image? = record'.map mixed.2.textures.image?) ∧
      plain.2.textures.images.Perm mixed.2.textures.images := by
  have hsame : (Scene.gallery [["Floor", "Red Wall"]]).SameReferences
      (.gallery [["Red Wall", "Red Wall"], ["Floor", "Red Wall"]]) := by
    refine ⟨rfl, rfl, fun name => ?_⟩
    simp only [Scene.Refers, Scene.gallery, List.map_cons, List.map_nil, List.mem_cons,
      List.not_mem_nil, or_false, exists_eq_or_imp, exists_eq_left]
    tauto
  have hnames : (Scene.gallery [["Floor", "Red Wall"]]).TellsApart := by decide +kernel
  obtain ⟨-, hrecords, himages⟩ :=
    writeScene_reference_order {} rfl "textures" "textures" [] [] _ _ hsame hnames
  exact ⟨by decide +kernel, by decide +kernel, hrecords, himages⟩

end ShadingExport
