import ShadingExport.Record.Basic
import ShadingExport.TextureDirectory

/-!
# Paths that stay

An image has one path: the one that its first placement gives it. No later placement moves it
(`TextureDirectory.path?_placeAll_of_isSome`), and images that all have a path leave a directory as
it is (`TextureDirectory.placeAll_eq_self`). So a record over paths stays the rendering of its
record over images (`TextureDirectory.Renders`), whatever is placed after it was made.
-/

namespace ShadingExport

/-! ## Renaming reads the files alone -/

section Renaming

variable {τ σ : Type} {first second : τ → σ}

theorem VaryingScalar.map_congr {value : VaryingScalar τ}
    (h : ∀ file ∈ value.files, first file = second file) : value.map first = value.map second := by
  cases value with
  | texture reference =>
    have hfile : first reference.file = second reference.file := h _ List.mem_cons_self
    rw [map, map, ImageTexture.map, ImageTexture.map, hfile]
  | _ => rfl

theorem VaryingColor.map_congr {value : VaryingColor τ}
    (h : ∀ file ∈ value.files, first file = second file) : value.map first = value.map second := by
  cases value with
  | texture reference =>
    have hfile : first reference.file = second reference.file := h _ List.mem_cons_self
    rw [map, map, ImageTexture.map, ImageTexture.map, hfile]
  | constant color => rfl

theorem optionalColor_map_congr {value : Option (VaryingColor τ)}
    (h : ∀ file ∈ optionalFiles value, first file = second file) :
    value.map (·.map first) = value.map (·.map second) := by
  cases value with
  | none => rfl
  | some color => exact congrArg some (VaryingColor.map_congr h)

/-- Renamings that agree on the files of a record rename it alike. -/
theorem MaterialRecord.map_congr : ∀ {record : MaterialRecord τ},
    (∀ file ∈ record.files, first file = second file) → record.map first = record.map second
  | ⟨_, .lambertian _⟩, h => by rw [map, map, optionalColor_map_congr h]
  | ⟨_, .roughConductor ..⟩, h => by
    rw [files, List.forall_mem_append] at h
    rw [map, map, VaryingScalar.map_congr h.1, VaryingColor.map_congr h.2]
  | ⟨_, .conductor _⟩, h => by rw [map, map, VaryingColor.map_congr h]
  | ⟨_, .blinnPhong ..⟩, h => by rw [map, map, VaryingColor.map_congr h]
  | ⟨_, .phong ..⟩, h => by rw [map, map, VaryingColor.map_congr h]
  | ⟨_, .metal ..⟩, h => by
    rw [files, List.forall_mem_append] at h
    rw [map, map, VaryingScalar.map_congr h.1, VaryingColor.map_congr h.2]
  | ⟨_, .dielectric ..⟩, h => by rw [map, map, optionalColor_map_congr h]
  | ⟨_, .thinDielectric ..⟩, h => by rw [map, map, optionalColor_map_congr h]
  | ⟨_, .roughDielectric ..⟩, h => by
    rw [files, List.forall_mem_append] at h
    rw [map, map, VaryingScalar.map_congr h.1, optionalColor_map_congr h.2]
  | ⟨_, .diffuseLight _⟩, _ => rfl
  | ⟨_, .blend ..⟩, h => by
    rw [files, List.forall_mem_append, List.forall_mem_append] at h
    rw [map, map, VaryingScalar.map_congr h.1.1, map_congr h.1.2, map_congr h.2]
  | ⟨_, .normalMap ..⟩, h => by
    rw [files, List.forall_mem_append] at h
    rw [map, map, VaryingColor.map_congr h.1, map_congr h.2]

/-- Renamings that agree on the file of a background rename it alike. -/
theorem Background.map_congr {background : Background τ}
    (h : ∀ file ∈ background.files, first file = second file) :
    background.map first = background.map second := by
  cases background with
  | constant radiance => rfl
  | environment envmap =>
    have hfile : first envmap.file = second envmap.file := h _ List.mem_cons_self
    rw [map, map, hfile]

end Renaming

namespace TextureDirectory

variable {textures : TextureDirectory} {image : Image}

/-! ## Placing in order -/

@[simp] theorem placeAll_cons (image : Image) (images : List Image) :
    textures.placeAll (image :: images) = (textures.place image).placeAll images := rfl

/-- **Paths stay**: placing images does not move an image that has a path. -/
theorem path?_placeAll_of_isSome (images : List Image) (h : (textures.path? image).isSome) :
    (textures.placeAll images).path? image = textures.path? image := by
  induction images generalizing textures with
  | nil => rfl
  | cons other images ih =>
    -- After the first image the path is still there, so the others keep it too.
    have hother : (textures.place other).path? image = textures.path? image :=
      path?_place_of_isSome other h
    rw [placeAll_cons, ih (by rw [hother]; exact h), hother]

/-- The path of an image is decided when it is asked for: later images do not matter. -/
theorem path?_placeAll_append_cons (before : List Image) (image : Image) (after : List Image) :
    (textures.placeAll (before ++ image :: after)).path? image =
      some ((textures.placeAll before).path image) := by
  have hplaced := path?_place_self (textures.placeAll before) image
  rw [placeAll_append, placeAll_cons,
    path?_placeAll_of_isSome after (Option.isSome_of_eq_some hplaced), hplaced]

/-- An image that was asked for has a path. -/
theorem isSome_path?_placeAll {images : List Image} (h : image ∈ images) :
    ((textures.placeAll images).path? image).isSome := by
  obtain ⟨before, after, rfl⟩ := List.append_of_mem h
  rw [path?_placeAll_append_cons]
  rfl

/-- The path to use for an image that has one does not change. -/
theorem path_placeAll_of_isSome (images : List Image) (h : (textures.path? image).isSome) :
    (textures.placeAll images).path image = textures.path image := by
  obtain ⟨path, hpath⟩ := Option.isSome_iff_exists.mp h
  rw [TextureDirectory.path, TextureDirectory.path, path?_placeAll_of_isSome images h, hpath,
    Option.getD_some, Option.getD_some]

/-- Images that all have a path leave the directory as it is. -/
theorem placeAll_eq_self {images : List Image}
    (h : ∀ image ∈ images, (textures.path? image).isSome) :
    textures.placeAll images = textures := by
  induction images with
  | nil => rfl
  | cons image images ih =>
    rw [List.forall_mem_cons] at h
    obtain ⟨path, hpath⟩ := Option.isSome_iff_exists.mp h.1
    have hplace : textures.place image = textures := by rw [place, hpath]
    rw [placeAll_cons, hplace, ih h.2]

/-! ## Renderings -/

/-- A record over paths renders a record over images: every image of it has a path, and stands in
for that path. -/
structure Renders (textures : TextureDirectory) (skeleton : MaterialRecord Image)
    (record : MaterialRecord String) : Prop where
  /-- Every image has a path. -/
  placed : ∀ image ∈ skeleton.files, (textures.path? image).isSome
  /-- The record has the paths in place of the images. -/
  eq_map : record = skeleton.map textures.path

/-- A record over images that were all asked for is rendered by the directory afterwards. -/
theorem renders_placeAll {skeleton : MaterialRecord Image} {images : List Image}
    (h : skeleton.files ⊆ images) :
    (textures.placeAll images).Renders skeleton (skeleton.map (textures.placeAll images).path) :=
  ⟨fun _ himage => isSome_path?_placeAll (h himage), rfl⟩

/-- **Renderings stay**: what is placed later does not change a rendering. -/
theorem Renders.placeAll {skeleton : MaterialRecord Image} {record : MaterialRecord String}
    (h : textures.Renders skeleton record) (images : List Image) :
    (textures.placeAll images).Renders skeleton record where
  placed := by
    intro image himage
    rw [path?_placeAll_of_isSome images (h.placed image himage)]
    exact h.placed image himage
  eq_map := by
    rw [h.eq_map]
    exact MaterialRecord.map_congr fun image himage =>
      (path_placeAll_of_isSome images (h.placed image himage)).symm

/-- A rendering keeps the name. -/
theorem Renders.name_eq {skeleton : MaterialRecord Image} {record : MaterialRecord String}
    (h : textures.Renders skeleton record) : record.name = skeleton.name := by
  rw [h.eq_map, MaterialRecord.name_map]

end TextureDirectory

end ShadingExport
