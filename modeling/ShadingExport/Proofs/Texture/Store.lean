import ShadingExport.Proofs.DistinctKeys
import ShadingExport.Proofs.Texture.Stability
import Mathlib.Data.List.Induction
import Mathlib.Data.List.Nodup
import Mathlib.Data.List.Perm.Subperm

/-!
# One place for every image

The names to try for a file are all different (`numberedName_injective`), so among one more of them
than there are paths taken one is free, and the first of these is the path for a new image
(`TextureDirectory.exists_freePath_eq_candidate`). Placing images therefore never gives one image
two places or two images one place (`TextureDirectory.Coherent`), and a coherent directory can be
read backwards: the path of an image leads back to the image
(`TextureDirectory.Coherent.image?_path`). From an empty directory the images are placed in the
order of their first requests (`TextureDirectory.images_placeAll`).
-/

namespace ShadingExport

/-! ## First occurrences -/

/-- One more element is a first occurrence, or it leaves no trace. -/
theorem eraseDups_concat {α : Type} [BEq α] [LawfulBEq α] (elements : List α)
    (last : α) :
    (elements ++ [last]).eraseDups =
      if last ∈ elements then elements.eraseDups else elements.eraseDups ++ [last] := by
  rw [List.eraseDups_append]
  by_cases h : last ∈ elements
  · simp [List.removeAll, h]
  · simp [List.removeAll, h, List.eraseDups_cons]

/-! ## The names to try are all different -/

/-- The names to try for a file are all different: those with a number differ in the number, and
they are longer than the file name itself. -/
theorem numberedName_injective (file : String) : Function.Injective (numberedName file) := by
  intro first second h
  have hlength := congrArg String.length h
  cases first with
  | zero =>
    cases second with
    | zero => rfl
    | succ second =>
      simp only [numberedName, String.length_append] at hlength
      have hmark : "_".length = 1 := rfl
      omega
  | succ first =>
    cases second with
    | zero =>
      simp only [numberedName, String.length_append] at hlength
      have hmark : "_".length = 1 := rfl
      omega
    | succ second =>
      have hlist := congrArg String.toList h
      simp only [numberedName, String.toList_append, List.append_assoc] at hlist
      have hnumber := List.append_cancel_right hlist
      rw [Nat.toString_eq_repr, Nat.toString_eq_repr, Nat.toList_repr, Nat.toList_repr] at hnumber
      -- The digits of a number tell the number.
      simpa using congrArg (Nat.ofDigitChars 10 · 0) hnumber

/-- Different files have different paths in a directory. -/
theorem joinPath_injective (directory : String) : Function.Injective (joinPath directory) := by
  intro first second h
  unfold joinPath at h
  by_cases hempty : directory.isEmpty = true
  · rwa [if_pos hempty, if_pos hempty] at h
  · rw [if_neg hempty, if_neg hempty] at h
    have hlist := congrArg String.toList h
    simp only [String.toList_append] at hlist
    exact String.toList_inj.mp (List.append_cancel_left hlist)

namespace TextureDirectory

variable {textures : TextureDirectory} {image other : Image}

theorem candidate_injective (textures : TextureDirectory) (image : Image) :
    Function.Injective (textures.candidate image) :=
  (joinPath_injective textures.directory).comp (numberedName_injective image.fileName)

/-- Among one more candidates than there are paths taken, one is free. -/
theorem exists_candidate_notMem_taken (textures : TextureDirectory) (image : Image) :
    ∃ candidate ∈ (List.range (textures.taken.length + 1)).map (textures.candidate image),
      candidate ∉ textures.taken := by
  by_contra hcontra
  have hsubset : (List.range (textures.taken.length + 1)).map (textures.candidate image) ⊆
      textures.taken := by
    intro candidate hcandidate
    by_contra hfree
    exact hcontra ⟨candidate, hcandidate, hfree⟩
  have hnodup : ((List.range (textures.taken.length + 1)).map (textures.candidate image)).Nodup :=
    List.nodup_range.map (textures.candidate_injective image)
  have hlength := (hnodup.subperm hsubset).length_le
  rw [List.length_map, List.length_range] at hlength
  omega

/-- **The free path for an image is the first candidate that is free**, and there are at most as
many candidates before it as there are paths taken. -/
theorem exists_freePath_eq_candidate (textures : TextureDirectory) (image : Image) :
    ∃ number ≤ textures.taken.length,
      textures.freePath image = textures.candidate image number ∧
        textures.candidate image number ∉ textures.taken ∧
        ∀ smaller < number, textures.candidate image smaller ∈ textures.taken := by
  obtain ⟨candidate, hcandidate, hfree⟩ := textures.exists_candidate_notMem_taken image
  have hfound : (((List.range (textures.taken.length + 1)).map (textures.candidate image)).find?
      fun path => !textures.taken.contains path).isSome := by
    rw [List.find?_isSome]
    exact ⟨candidate, hcandidate, by simpa using hfree⟩
  obtain ⟨path, hpath⟩ := Option.isSome_iff_exists.mp hfound
  have hfreePath : textures.freePath image = path := by rw [freePath, hpath, Option.getD_some]
  -- The search runs through the numbers in order, so it ends at the least one.
  rw [List.find?_map, Option.map_eq_some_iff] at hpath
  obtain ⟨number, hnumber, rfl⟩ := hpath
  obtain ⟨hfirst, hrange, hbefore⟩ := List.find?_range_eq_some.mp hnumber
  refine ⟨number, Nat.lt_succ_iff.mp (List.mem_range.mp hrange), hfreePath, ?_, ?_⟩
  · simpa using hfirst
  · exact fun smaller hsmaller => by simpa using hbefore smaller hsmaller

/-- **The path for a new image is free.** -/
theorem freePath_notMem_taken (textures : TextureDirectory) (image : Image) :
    textures.freePath image ∉ textures.taken := by
  obtain ⟨number, -, hpath, hfree, -⟩ := textures.exists_freePath_eq_candidate image
  rwa [hpath]

/-! ## Images and places belong together -/

/-- The images that have a place, in the order of their first requests. -/
def images (textures : TextureDirectory) : List Image := textures.placements.map Placement.image

/-- The image that has been placed at a path. -/
def image? (textures : TextureDirectory) (path : String) : Option Image :=
  (textures.placements.find? (·.destination == path)).map Placement.image

theorem mem_images_iff : image ∈ textures.images ↔ (textures.path? image).isSome := by
  simp [images, path?, List.find?_isSome]

theorem placements_place_of_mem (h : image ∈ textures.images) :
    (textures.place image).placements = textures.placements := by
  obtain ⟨path, hpath⟩ := Option.isSome_iff_exists.mp (mem_images_iff.mp h)
  rw [place, hpath]

theorem placements_place_of_notMem (h : image ∉ textures.images) :
    (textures.place image).placements =
      textures.placements ++ [⟨image, textures.freePath image⟩] := by
  rw [mem_images_iff, Option.not_isSome_iff_eq_none] at h
  rw [place, h]

/-- No image has two places, and no place has two images. -/
structure Coherent (textures : TextureDirectory) : Prop where
  /-- No image has been placed twice. -/
  nodup_images : textures.images.Nodup
  /-- No path has been given twice. -/
  nodup_taken : textures.taken.Nodup

/-- Nothing has been placed in an empty directory. -/
theorem coherent_of_placements_eq_nil (h : textures.placements = []) : textures.Coherent := by
  constructor
  · rw [images, h]
    exact List.nodup_nil
  · rw [taken, h]
    exact List.nodup_nil

/-- **A request keeps a directory coherent**: an image that is placed is new, and its path was
free. -/
theorem Coherent.place (h : textures.Coherent) (image : Image) :
    (textures.place image).Coherent := by
  by_cases hmem : image ∈ textures.images
  · have hplacements := placements_place_of_mem hmem
    constructor
    · rw [images, hplacements]
      exact h.nodup_images
    · rw [taken, hplacements]
      exact h.nodup_taken
  · have hplacements := placements_place_of_notMem hmem
    constructor
    · rw [images, hplacements, List.map_append, List.map_singleton, ← List.concat_eq_append]
      exact h.nodup_images.concat hmem
    · rw [taken, hplacements, List.map_append, List.map_singleton, ← List.concat_eq_append]
      exact h.nodup_taken.concat (textures.freePath_notMem_taken image)

/-- **Requests keep a directory coherent.** -/
theorem Coherent.placeAll (h : textures.Coherent) (images : List Image) :
    (textures.placeAll images).Coherent := by
  induction images generalizing textures with
  | nil => exact h
  | cons image images ih => exact ih (h.place image)

/-- In a coherent directory every image has the path of its placement. -/
theorem Coherent.path_eq_destination (h : textures.Coherent) {placement : Placement}
    (hmem : placement ∈ textures.placements) :
    textures.path placement.image = placement.destination := by
  rw [path, path?, find?_eq_some_of_nodup_map h.nodup_images hmem]
  rfl

/-- A coherent directory consists of its images with their paths. -/
theorem Coherent.placements_eq (h : textures.Coherent) :
    textures.placements = textures.images.map fun image => ⟨image, textures.path image⟩ := by
  rw [images, List.map_map]
  conv_lhs => rw [← List.map_id textures.placements]
  refine List.map_congr_left fun placement hmem => ?_
  rw [Function.comp_apply, h.path_eq_destination hmem]
  rfl

/-- One copy is due for each image, from its host path to its own. -/
theorem Coherent.copies_eq (h : textures.Coherent) :
    textures.copies = textures.images.map fun image => (image.filepath, textures.path image) := by
  rw [copies, h.placements_eq, List.map_map]
  rfl

/-- **Different images have different paths.** -/
theorem Coherent.eq_of_path_eq (h : textures.Coherent) (himage : image ∈ textures.images)
    (hother : other ∈ textures.images) (hpath : textures.path image = textures.path other) :
    image = other := by
  have htaken : textures.taken = textures.images.map textures.path := by
    rw [taken, h.placements_eq, List.map_map]
    rfl
  have hnodup : (textures.images.map textures.path).Nodup := htaken ▸ h.nodup_taken
  exact List.inj_on_of_nodup_map hnodup himage hother hpath

/-- The path of an image leads back to the image. -/
theorem Coherent.image?_path (h : textures.Coherent) (himage : image ∈ textures.images) :
    textures.image? (textures.path image) = some image := by
  obtain ⟨placement, hmem, rfl⟩ := List.mem_map.mp himage
  rw [h.path_eq_destination hmem, image?, find?_eq_some_of_nodup_map h.nodup_taken hmem]
  rfl

/-- Of all copies that are due, exactly one leads to the path of an image. -/
theorem Coherent.filter_copies_eq (h : textures.Coherent) (himage : image ∈ textures.images) :
    textures.copies.filter (·.2 = textures.path image) =
      [(image.filepath, textures.path image)] := by
  have hfilter : textures.images.filter (fun other => textures.path other = textures.path image) =
      [image] := by
    have hsame : ∀ other ∈ textures.images,
        decide (textures.path other = textures.path image) = (other == image) := by
      intro other hother
      rw [Bool.eq_iff_iff, decide_eq_true_iff, beq_iff_eq]
      constructor
      · exact h.eq_of_path_eq hother himage
      · exact congrArg textures.path
    rw [List.filter_congr hsame, List.filter_beq,
      List.count_eq_one_of_mem h.nodup_images himage, List.replicate_one]
  rw [h.copies_eq, List.filter_map]
  exact congrArg (List.map _) hfilter

/-! ## Requests to an empty directory -/

/-- From an empty directory, images are placed in the order of their first requests. -/
theorem images_placeAll (h : textures.placements = []) (requested : List Image) :
    (textures.placeAll requested).images = requested.eraseDups := by
  induction requested using List.reverseRecOn with
  | nil =>
    rw [placeAll_nil, images, h]
    rfl
  | append_singleton requested image ih =>
    have hmem : image ∈ (textures.placeAll requested).images ↔ image ∈ requested := by
      rw [ih, List.mem_eraseDups]
    rw [placeAll_append, placeAll_cons, placeAll_nil, eraseDups_concat]
    by_cases hrequested : image ∈ requested
    · rw [if_pos hrequested, images, placements_place_of_mem (hmem.mpr hrequested)]
      exact ih
    · rw [if_neg hrequested, images, placements_place_of_notMem (mt hmem.mp hrequested),
        List.map_append, ← images, ih]
      rfl

/-- What has been placed in a directory that was empty is what has been requested. -/
theorem mem_images_placeAll (h : textures.placements = []) {requested : List Image} :
    image ∈ (textures.placeAll requested).images ↔ image ∈ requested := by
  rw [images_placeAll h, List.mem_eraseDups]

/-- The paths that requests are answered with, in order: each is the path of its image in the
directory that the requests before it left. -/
def answers (textures : TextureDirectory) : List Image → List String
  | [] => []
  | image :: images => textures.path image :: (textures.place image).answers images

/-- Every request is answered with the path that its image keeps. -/
theorem answers_eq_map (textures : TextureDirectory) (requested : List Image) :
    textures.answers requested = requested.map (textures.placeAll requested).path := by
  induction requested generalizing textures with
  | nil => rfl
  | cons image requested ih =>
    have hself : (textures.place image).path? image = some (textures.path image) :=
      path?_place_self textures image
    have hlater : ((textures.place image).placeAll requested).path? image =
        some (textures.path image) := by
      rw [path?_placeAll_of_isSome requested (Option.isSome_of_eq_some hself), hself]
    have hpath : ((textures.place image).placeAll requested).path image = textures.path image := by
      rw [path, hlater, Option.getD_some]
    rw [answers, ih, List.map_cons, placeAll_cons, hpath]

/-- **The law of the texture directory.** Whatever is requested from an empty directory, each image
has one path: all requests for it are answered with that path, from the first on. No two of the
images have the same path. And one copy is due per image, in the order of the first requests, from
the host path of the image to the path that its requests were answered with. -/
theorem answers_of_empty (directory : String) (requested : List Image) :
    let empty : TextureDirectory := { directory }
    let after := empty.placeAll requested
    empty.answers requested = requested.map after.path ∧
      (∀ image ∈ requested, ∀ other ∈ requested, after.path image = after.path other →
        image = other) ∧
      after.copies = requested.eraseDups.map fun image => (image.filepath, after.path image) := by
  intro empty after
  have hempty : empty.placements = [] := rfl
  have hcoherent : after.Coherent := (coherent_of_placements_eq_nil hempty).placeAll requested
  refine ⟨empty.answers_eq_map requested, ?_, ?_⟩
  · intro image himage other hother
    exact hcoherent.eq_of_path_eq ((mem_images_placeAll hempty).mpr himage)
      ((mem_images_placeAll hempty).mpr hother)
  · rw [hcoherent.copies_eq, images_placeAll hempty]

/-- A numbered name may be the own name of another file; then the next number is tried. -/
example :
    let first : Image := { name := "a", filepath := "/a/1_x.png" }
    let second : Image := { name := "b", filepath := "/b/x.png" }
    let third : Image := { name := "c", filepath := "/c/x.png" }
    TextureDirectory.answers { directory := "textures" } [first, second, third, second] =
      ["textures/1_x.png", "textures/x.png", "textures/2_x.png", "textures/x.png"] := by
  decide +kernel

end TextureDirectory

end ShadingExport
