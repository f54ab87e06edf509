import ShadingExport.Proofs.Texture.Store
import Mathlib.Algebra.Group.Nat.Defs

/-!
# The search for a free path

A new image gets a path by trying: first the plain file name, then the name behind 1, 2, … for as
long as the path is taken. `TextureDirectory.Search` is the state of that search, with its counter
in 32 bits, and `TextureDirectory.Search.Finds` says that it ends and where. It always ends, after
no more renamings than there are paths taken, and with the first candidate that is free
(`TextureDirectory.search_finds_least`): this is the path that `TextureDirectory.path` gives.
-/

namespace ShadingExport

namespace TextureDirectory

variable {textures : TextureDirectory} {image : Image}

/-! ## The least number -/

/-- A new image gets the free path. -/
theorem path_eq_freePath (h : image ∉ textures.images) :
    textures.path image = textures.freePath image := by
  rw [mem_images_iff, Option.not_isSome_iff_eq_none] at h
  rw [path, h, Option.getD_none]

/-- A new image gets its plain file name in the directory if that is free. -/
theorem path_eq_of_notMem_taken (h : image ∉ textures.images)
    (hfree : joinPath textures.directory image.fileName ∉ textures.taken) :
    textures.path image = joinPath textures.directory image.fileName := by
  obtain ⟨number, -, hpath, -, hbefore⟩ := textures.exists_freePath_eq_candidate image
  rw [path_eq_freePath h, hpath]
  cases number with
  | zero => rfl
  | succ number => exact absurd (hbefore 0 (Nat.succ_pos number)) hfree

/-- Where its plain file name is taken, a new image gets the name behind the least number that
makes it free. -/
theorem exists_path_eq_of_mem_taken (h : image ∉ textures.images)
    (htaken : joinPath textures.directory image.fileName ∈ textures.taken) :
    ∃ number ≥ 1, textures.path image =
        joinPath textures.directory (toString number ++ "_" ++ image.fileName) ∧
      ∀ smaller ≥ 1, smaller < number →
        joinPath textures.directory (toString smaller ++ "_" ++ image.fileName) ∈
          textures.taken := by
  obtain ⟨number, -, hpath, hfree, hbefore⟩ := textures.exists_freePath_eq_candidate image
  rw [path_eq_freePath h, hpath]
  cases number with
  | zero => exact absurd htaken hfree
  | succ number =>
    refine ⟨number + 1, Nat.succ_pos number, rfl, fun smaller hsmaller hless => ?_⟩
    obtain ⟨previous, rfl⟩ := Nat.exists_eq_add_of_le' hsmaller
    exact hbefore (previous + 1) hless

/-! ## The search, name by name -/

/-- The state of a search: the path to try, and the number for the next name. -/
structure Search where
  /-- The path to try. -/
  destination : String
  /-- The number for the next name. -/
  number : Int32

namespace Search

/-- A search begins with the plain file name. -/
def start (textures : TextureDirectory) (image : Image) : Search :=
  ⟨joinPath textures.directory image.fileName, 1⟩

/-- The next name to try carries the number. -/
def rename (textures : TextureDirectory) (image : Image) (search : Search) : Search :=
  ⟨joinPath textures.directory (toString search.number ++ "_" ++ image.fileName),
    search.number + 1⟩

/-- A search ends with a path, after a number of renamings: it renames for as long as the path to
try is taken. -/
inductive Finds (textures : TextureDirectory) (image : Image) : Search → Nat → String → Prop
  /-- A free path ends the search. -/
  | free {search : Search} (h : search.destination ∉ textures.taken) :
    Finds textures image search 0 search.destination
  /-- Behind a path that is taken the search goes on with the next name. -/
  | taken {search : Search} {renamings : Nat} {path : String}
    (h : search.destination ∈ textures.taken)
    (later : Finds textures image (search.rename textures image) renamings path) :
    Finds textures image search (renamings + 1) path

/-- The state after some renamings. -/
def after (textures : TextureDirectory) (image : Image) (renamings : Nat) : Search :=
  ⟨textures.candidate image renamings, Int32.ofNat (renamings + 1)⟩

@[simp] theorem after_zero : after textures image 0 = start textures image := rfl

/-- **A renaming leads from one candidate to the next**, as long as the number fits. -/
theorem rename_after {renamings : Nat} (h : renamings + 1 < 2 ^ 31) :
    (after textures image renamings).rename textures image =
      after textures image (renamings + 1) := by
  have hnumber : toString (Int32.ofNat (renamings + 1)) = toString (renamings + 1) := by
    change toString (Int32.ofNat (renamings + 1)).toInt = toString (renamings + 1)
    rw [Int32.toInt_ofNat_of_lt h]
    rfl
  rw [rename, after, hnumber, after, Int32.ofNat_add (renamings + 1) 1]
  rfl

/-- **A search ends at the first candidate that is free**: from any state before it, by induction on
the renamings that are still to be made. -/
theorem finds_after {first renamings last : Nat} (hlast : first + renamings = last)
    (hfits : last < 2 ^ 31)
    (htaken : ∀ number, first ≤ number → number < last →
      textures.candidate image number ∈ textures.taken)
    (hfree : textures.candidate image last ∉ textures.taken) :
    (after textures image first).Finds textures image renamings
      (textures.candidate image last) := by
  induction renamings generalizing first with
  | zero =>
    obtain rfl : first = last := hlast
    exact .free hfree
  | succ renamings ih =>
    refine .taken (htaken first (Nat.le_refl first) (by omega)) ?_
    rw [rename_after (by omega)]
    exact ih (by omega) fun number hfirst hnumber => htaken number (by omega) hnumber

end Search

/-- **The search for a new image ends** after no more renamings than there are paths taken, with the
path that the image is given. -/
theorem exists_finds (h : image ∉ textures.images) (hfew : textures.taken.length < 2 ^ 31) :
    ∃ renamings ≤ textures.taken.length,
      (Search.start textures image).Finds textures image renamings (textures.path image) := by
  obtain ⟨number, hnumber, hpath, hfree, hbefore⟩ := textures.exists_freePath_eq_candidate image
  refine ⟨number, hnumber, ?_⟩
  rw [path_eq_freePath h, hpath, ← Search.after_zero]
  exact Search.finds_after (Nat.zero_add number) (by omega) (fun smaller _ => hbefore smaller) hfree

/-! ## Requests for new images -/

/-- A request leaves the directory where it is. -/
theorem directory_place (textures : TextureDirectory) (image : Image) :
    (textures.place image).directory = textures.directory := by
  unfold place
  split <;> rfl

/-- Requests leave the directory where it is. -/
theorem directory_placeAll (textures : TextureDirectory) (requested : List Image) :
    (textures.placeAll requested).directory = textures.directory := by
  induction requested generalizing textures with
  | nil => rfl
  | cons image requested ih => rw [placeAll_cons, ih, directory_place]

/-- What is taken in a directory that was empty is what requests were answered with. -/
theorem mem_taken_placeAll_iff (h : textures.placements = []) {requested : List Image}
    {path : String} :
    path ∈ (textures.placeAll requested).taken ↔ path ∈ textures.answers requested := by
  have hcoherent : (textures.placeAll requested).Coherent :=
    (coherent_of_placements_eq_nil h).placeAll requested
  rw [taken, hcoherent.placements_eq, List.map_map, answers_eq_map, images_placeAll h]
  simp [List.mem_map, List.mem_eraseDups]

/-- **The search for a path ends with the least number.** Whatever was requested before, for an
image that is new the search ends, after no more renamings than there are paths taken, and with the
path that the image is given. This is the plain file name in the directory if that is free, and
otherwise the name behind the least number that makes it free. The paths taken are those that the
requests were answered with, so none of them is given again. -/
theorem search_finds_least (directory : String) {requested : List Image} {image : Image}
    (hnew : image ∉ requested) (hfew : requested.eraseDups.length < 2 ^ 31) :
    let empty : TextureDirectory := { directory }
    let textures := empty.placeAll requested
    let path := textures.path image
    (∃ renamings ≤ textures.taken.length,
        (Search.start textures image).Finds textures image renamings path) ∧
      (joinPath directory image.fileName ∉ textures.taken →
        path = joinPath directory image.fileName) ∧
      (joinPath directory image.fileName ∈ textures.taken →
        ∃ number ≥ 1, path = joinPath directory (toString number ++ "_" ++ image.fileName) ∧
          ∀ smaller ≥ 1, smaller < number →
            joinPath directory (toString smaller ++ "_" ++ image.fileName) ∈ textures.taken) ∧
      path ∉ textures.taken ∧
      ∀ other, other ∈ textures.taken ↔ other ∈ empty.answers requested := by
  intro empty textures path
  have hempty : empty.placements = [] := rfl
  have himages : textures.images = requested.eraseDups := images_placeAll hempty requested
  have hnotMem : image ∉ textures.images := mt (mem_images_placeAll hempty).mp hnew
  have hlength : textures.taken.length = requested.eraseDups.length := by
    rw [← himages, taken, images, List.length_map, List.length_map]
  have hdirectory : textures.directory = directory := directory_placeAll empty requested
  have hfree : path ∉ textures.taken := by
    rw [show path = textures.freePath image from path_eq_freePath hnotMem]
    exact textures.freePath_notMem_taken image
  rw [← hdirectory]
  exact ⟨exists_finds hnotMem (hlength ▸ hfew), path_eq_of_notMem_taken hnotMem,
    exists_path_eq_of_mem_taken hnotMem, hfree, fun _ => mem_taken_placeAll_iff hempty⟩

/-- The number 1 is taken by a file of that name, and so a second `x.png` gets the number 2. -/
theorem search_finds_least_numberedFile :
    let requested : List Image :=
      [{ name := "a", filepath := "/a/1_x.png" }, { name := "b", filepath := "/b/x.png" }]
    let image : Image := { name := "c", filepath := "/c/x.png" }
    let empty : TextureDirectory := { directory := "textures/" }
    let textures := empty.placeAll requested
    image ∉ requested ∧ requested.eraseDups.length < 2 ^ 31 ∧
      empty.answers requested = ["textures/1_x.png", "textures/x.png"] ∧
      (∃ renamings ≤ 2,
        (Search.start textures image).Finds textures image renamings "textures/2_x.png") ∧
      "textures/2_x.png" ∉ empty.answers requested := by
  intro requested image empty textures
  have hnew : image ∉ requested := by decide
  have hfew : requested.eraseDups.length < 2 ^ 31 := by decide
  obtain ⟨⟨renamings, hrenamings, hfinds⟩, -, -, hfree, htaken⟩ :=
    search_finds_least "textures/" hnew hfew
  have hpath : textures.path image = "textures/2_x.png" := by decide +kernel
  have hlength : textures.taken.length = 2 := by decide +kernel
  refine ⟨hnew, hfew, by decide +kernel, ⟨renamings, hlength ▸ hrenamings, hpath ▸ hfinds⟩, ?_⟩
  rw [← hpath, ← htaken]
  exact hfree

end TextureDirectory

end ShadingExport
