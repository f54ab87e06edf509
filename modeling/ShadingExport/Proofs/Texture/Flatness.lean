import ShadingExport.Proofs.Texture.Numbering
import Mathlib.Data.List.DropRight

/-!
# Files right in the directory

A path lies in a directory (`LiesIn`) if it is that of a file there and not of one further down or
elsewhere. The part of a host path that names its file is such a file name
(`isPlain_of_pathFile?`), and numbers do not change that (`IsPlain.numberedName`). The name of an
image, though, is taken as it is: an image without a file in its host path lands in the directory
exactly if its name has no slash (`TextureDirectory.answers_lieIn_iff`). With a name that begins
with a step upwards it lands outside (`TextureDirectory.answers_lieIn_upwards`).
-/

namespace ShadingExport

/-! ## File names and directories -/

/-- A file name is plain if it is one part of a path and no step. -/
structure IsPlain (file : List Char) : Prop where
  /-- There is a name. -/
  ne_nil : file ≠ []
  /-- The name is one part. -/
  slash_notMem : '/' ∉ file
  /-- The name is not that of the directory itself. -/
  ne_dot : file ≠ ['.']
  /-- The name is not that of the directory above. -/
  ne_dots : file ≠ ['.', '.']

/-- A path lies in a directory if it consists of the directory without the slashes at its end, of
one slash, and of a plain file name. -/
def LiesIn (directory path : String) : Prop :=
  ∃ stem slashes file, directory.toList = stem ++ List.replicate slashes '/' ∧
    (∀ hne : stem ≠ [], stem.getLast hne ≠ '/') ∧ IsPlain file ∧ path.toList = stem ++ '/' :: file

/-- What is left of a directory is the beginning before the slashes at its end. -/
theorem toList_dropTrailingSlashes_eq_iff {directory : String} {stem : List Char} :
    (dropTrailingSlashes directory).toList = stem ↔
      ∃ slashes, directory.toList = stem ++ List.replicate slashes '/' ∧
        ∀ hne : stem ≠ [], stem.getLast hne ≠ '/' := by
  have hdrop : (dropTrailingSlashes directory).toList = directory.toList.rdropWhile (· = '/') := by
    rw [dropTrailingSlashes, String.toList_ofList, List.rdropWhile]
  rw [hdrop]
  constructor
  · rintro rfl
    let slashes := directory.toList.rtakeWhile (· = '/')
    have hslashes : slashes = List.replicate slashes.length '/' :=
      List.eq_replicate_of_mem fun char hchar => by simpa using List.mem_rtakeWhile_imp hchar
    refine ⟨slashes.length, ?_, fun hne => ?_⟩
    · rw [← hslashes, List.rdropWhile_append_rtakeWhile]
    · simpa using List.rdropWhile_last_not (· = '/') directory.toList hne
  · rintro ⟨slashes, hdirectory, hlast⟩
    have hstem : ∀ count,
        (stem ++ List.replicate count '/').rdropWhile (· = '/') = stem := by
      intro count
      induction count with
      | zero =>
        rw [List.replicate_zero, List.append_nil, List.rdropWhile_eq_self_iff]
        simpa using hlast
      | succ count ih =>
        rw [List.replicate_succ', ← List.append_assoc, List.rdropWhile_concat_pos, ih]
        exact decide_eq_true rfl
    rw [hdirectory, hstem]

/-! ## The parts of a path -/

/-- The parts of a path have no slashes. -/
theorem slash_notMem_of_mem_pathParts {path part : List Char} (h : part ∈ pathParts path) :
    '/' ∉ part := by
  induction path generalizing part with
  | nil =>
    obtain rfl : part = [] := List.mem_singleton.mp h
    exact List.not_mem_nil
  | cons char rest ih =>
    rw [pathParts] at h
    split at h
    · rcases List.mem_cons.mp h with rfl | hrest
      · exact List.not_mem_nil
      · exact ih hrest
    · next hchar =>
      split at h
      · obtain rfl : part = [char] := List.mem_singleton.mp h
        simpa using Ne.symm hchar
      · next first parts hparts =>
        rw [hparts] at ih
        rcases List.mem_cons.mp h with rfl | hrest
        · exact List.not_mem_cons_of_ne_of_not_mem (Ne.symm hchar) (ih List.mem_cons_self)
        · exact ih (List.mem_cons_of_mem _ hrest)

/-- **The file that a path names is a plain one.** -/
theorem isPlain_of_pathFile? {path file : List Char} (h : pathFile? path = some file) :
    IsPlain file := by
  unfold pathFile? at h
  split at h
  · next part hlast =>
    split at h
    · cases h
    · next hdots =>
      obtain rfl : part = file := Option.some.inj h
      obtain ⟨hpart, hkept⟩ := List.mem_filter.mp (List.mem_of_getLast? hlast)
      obtain ⟨hne, hdot⟩ : part ≠ [] ∧ part ≠ ['.'] := by simpa using hkept
      exact ⟨hne, slash_notMem_of_mem_pathParts hpart, hdot, hdots⟩
  · cases h

/-! ## Names with a number -/

/-- A number does not bring slashes into a file name, nor take them out. -/
theorem slash_mem_numberedName_iff {file : String} (number : Nat) :
    '/' ∈ (numberedName file number).toList ↔ '/' ∈ file.toList := by
  cases number with
  | zero => rfl
  | succ number =>
    have hdigits : '/' ∉ Nat.toDigits 10 (number + 1) := fun hmem =>
      absurd (Nat.isDigit_of_mem_toDigits (by decide) (by decide) hmem) (by decide)
    simp [numberedName, hdigits]

/-- **A number keeps a file name plain.** -/
theorem IsPlain.numberedName {file : String} (h : IsPlain file.toList) (number : Nat) :
    IsPlain (numberedName file number).toList := by
  cases number with
  | zero => exact h
  | succ number =>
    -- The mark behind the number is neither missing nor part of a step.
    have hmark : '_' ∈ (ShadingExport.numberedName file (number + 1)).toList := by
      simp [ShadingExport.numberedName]
    refine ⟨?_, mt (slash_mem_numberedName_iff _).mp h.slash_notMem, ?_, ?_⟩
    all_goals
      intro hfile
      rw [hfile] at hmark
      revert hmark
      decide

/-! ## Where images land -/

/-- The image is nested: its host path names no file, and its name, which stands in, leads through
directories. -/
def Image.IsNested (image : Image) : Prop :=
  pathFile? (dropRelativeMark image.filepath.toList) = none ∧ '/' ∈ image.name.toList

instance (image : Image) : Decidable image.IsNested :=
  inferInstanceAs (Decidable (_ ∧ _))

/-- The file name of an image is plain, unless the image is nested. -/
theorem Image.isPlain_fileName {image : Image} (h : ¬image.IsNested) :
    IsPlain image.fileName.toList := by
  unfold fileName
  split
  · next file hfile =>
    rw [String.toList_ofList]
    exact isPlain_of_pathFile? hfile
  · next hfile =>
    have hname : '/' ∉ image.name.toList := fun hslash => h ⟨hfile, hslash⟩
    rw [String.toList_append]
    refine ⟨by simp, by simpa using hname, ?_, ?_⟩
    -- The ending alone is longer than a step.
    all_goals
      intro hstep
      simpa using congrArg List.length hstep

/-- The file name of a nested image leads through directories. -/
theorem Image.IsNested.slash_mem_fileName {image : Image} (h : image.IsNested) :
    '/' ∈ image.fileName.toList := by
  rw [fileName, h.1, String.toList_append]
  exact List.mem_append_left _ h.2

/-- A file lies in a directory exactly if its name is plain. -/
theorem liesIn_joinPath_iff {directory file : String} (h : directory ≠ "") :
    LiesIn directory (joinPath directory file) ↔ IsPlain file.toList := by
  have hpath : (joinPath directory file).toList =
      (dropTrailingSlashes directory).toList ++ '/' :: file.toList := by
    rw [joinPath, if_neg (by simpa using h), String.toList_append, String.toList_append,
      List.append_assoc]
    rfl
  constructor
  · rintro ⟨stem, slashes, plain, hdirectory, hlast, hplain, hplace⟩
    -- The directory tells its beginning, and that leaves the file name.
    have hstem := toList_dropTrailingSlashes_eq_iff.mpr ⟨slashes, hdirectory, hlast⟩
    rw [hpath, hstem, List.append_cancel_left_eq, List.cons.injEq] at hplace
    rw [hplace.2]
    exact hplain
  · intro hplain
    obtain ⟨slashes, hdirectory, hlast⟩ := toList_dropTrailingSlashes_eq_iff.mp rfl
    exact ⟨_, slashes, _, hdirectory, hlast, hplain, hpath⟩

namespace TextureDirectory

variable {textures : TextureDirectory} {image : Image}

/-- Every file of the directory has the name of its image, perhaps with a number. -/
def Numbered (textures : TextureDirectory) : Prop :=
  ∀ placement ∈ textures.placements, ∃ number,
    placement.destination =
      joinPath textures.directory (numberedName placement.image.fileName number)

/-- **A request keeps the names**: a new image gets one of the candidates for it. -/
theorem Numbered.place (h : textures.Numbered) (image : Image) :
    (textures.place image).Numbered := by
  intro placement hmem
  rw [directory_place]
  by_cases himage : image ∈ textures.images
  · rw [placements_place_of_mem himage] at hmem
    exact h placement hmem
  · rw [placements_place_of_notMem himage, List.mem_append, List.mem_singleton] at hmem
    rcases hmem with hold | rfl
    · exact h placement hold
    · obtain ⟨number, -, hpath, -⟩ := textures.exists_freePath_eq_candidate image
      exact ⟨number, hpath⟩

/-- **Requests keep the names.** -/
theorem Numbered.placeAll (h : textures.Numbered) (requested : List Image) :
    (textures.placeAll requested).Numbered := by
  induction requested generalizing textures with
  | nil => exact h
  | cons image requested ih => exact ih (h.place image)

/-- The path of an image that was requested is made of its file name. -/
theorem exists_path_placeAll_eq {directory : String} {requested : List Image}
    (h : image ∈ requested) :
    ∃ number, (placeAll { directory } requested).path image =
      joinPath directory (numberedName image.fileName number) := by
  let empty : TextureDirectory := { directory }
  have hempty : empty.placements = [] := rfl
  have hcoherent : (empty.placeAll requested).Coherent :=
    (coherent_of_placements_eq_nil hempty).placeAll requested
  have hnumbered : (empty.placeAll requested).Numbered :=
    Numbered.placeAll (fun _ hmem => absurd hmem List.not_mem_nil) requested
  obtain ⟨placement, hmem, rfl⟩ := List.mem_map.mp ((mem_images_placeAll hempty).mpr h)
  obtain ⟨number, hnumber⟩ := hnumbered placement hmem
  refine ⟨number, ?_⟩
  rw [hcoherent.path_eq_destination hmem, hnumber, directory_placeAll]

/-- The path of an image lies in the directory, unless the image is nested. -/
theorem liesIn_path_placeAll_iff {directory : String} (hdirectory : directory ≠ "")
    {requested : List Image} (h : image ∈ requested) :
    LiesIn directory ((placeAll { directory } requested).path image) ↔ ¬image.IsNested := by
  obtain ⟨number, hpath⟩ := exists_path_placeAll_eq h
  rw [hpath, liesIn_joinPath_iff hdirectory]
  constructor
  · intro hplain hnested
    exact hplain.slash_notMem ((slash_mem_numberedName_iff number).mpr hnested.slash_mem_fileName)
  · intro hnested
    exact (Image.isPlain_fileName hnested).numberedName number

/-- **Files land right in the directory, but for those of nested images.** Whatever is requested of
a directory that has a name, an image is given a path that lies in the directory exactly if it is
not nested. So all requests are answered with paths in the directory, and all copies lead there,
exactly if no image is nested: if each names a file by its host path or has no slash in its name. -/
theorem answers_lieIn_iff {directory : String} (hdirectory : directory ≠ "")
    (requested : List Image) :
    let empty : TextureDirectory := { directory }
    let after := empty.placeAll requested
    (∀ image ∈ requested, LiesIn directory (after.path image) ↔ ¬image.IsNested) ∧
      ((∀ path ∈ empty.answers requested, LiesIn directory path) ↔
        ∀ image ∈ requested, ¬image.IsNested) ∧
      ((∀ copy ∈ after.copies, LiesIn directory copy.2) ↔
        ∀ image ∈ requested, ¬image.IsNested) := by
  intro empty after
  have hempty : empty.placements = [] := rfl
  have hcoherent : after.Coherent := (coherent_of_placements_eq_nil hempty).placeAll requested
  have hpath : ∀ image ∈ requested, LiesIn directory (after.path image) ↔ ¬image.IsNested :=
    fun image himage => liesIn_path_placeAll_iff hdirectory himage
  refine ⟨hpath, ?_, ?_⟩
  · rw [answers_eq_map, List.forall_mem_map]
    exact forall₂_congr hpath
  · rw [hcoherent.copies_eq, List.forall_mem_map, images_placeAll hempty]
    simp only [List.mem_eraseDups]
    exact forall₂_congr hpath

/-- Files of all sorts of host paths land in the directory: one that is relative to the document,
one that is named twice, one that ends in a step upwards, and none at all. -/
theorem answers_lieIn_studio :
    let requested : List Image :=
      [{ name := "oak", filepath := "//maps/oak.png" }, { name := "b", filepath := "/b/oak.png/." },
        { name := "up", filepath := "//maps/.." }, { name := "packed" }]
    let empty : TextureDirectory := { directory := "textures//" }
    "textures//" ≠ "" ∧
      empty.answers requested =
        ["textures/oak.png", "textures/1_oak.png", "textures/up.png", "textures/packed.png"] ∧
      (∀ path ∈ empty.answers requested, LiesIn "textures//" path) ∧
      ∀ copy ∈ (empty.placeAll requested).copies, LiesIn "textures//" copy.2 := by
  intro requested empty
  have hplain : ∀ image ∈ requested, ¬image.IsNested := by decide +kernel
  have hdirectory : "textures//" ≠ "" := by decide
  obtain ⟨-, hanswers, hcopies⟩ := answers_lieIn_iff hdirectory requested
  exact ⟨hdirectory, by decide +kernel, hanswers.mpr hplain, hcopies.mpr hplain⟩

/-- The name of an image without a host path may lead down, and it may lead out of the directory. -/
theorem answers_lieIn_upwards :
    let requested : List Image := [{ name := "wood/oak" }, { name := "../key" }]
    let empty : TextureDirectory := { directory := "textures" }
    empty.answers requested = ["textures/wood/oak.png", "textures/../key.png"] ∧
      (empty.placeAll requested).copies =
        [("", "textures/wood/oak.png"), ("", "textures/../key.png")] ∧
      ¬LiesIn "textures" "textures/wood/oak.png" ∧ ¬LiesIn "textures" "textures/../key.png" := by
  intro requested empty
  have hstrays : ∀ {image path}, image ∈ requested → image.IsNested →
      (empty.placeAll requested).path image = path → ¬LiesIn "textures" path := by
    rintro image path himage hnested rfl hlies
    exact (liesIn_path_placeAll_iff (by decide) himage).mp hlies hnested
  refine ⟨by decide +kernel, by decide +kernel, ?_, ?_⟩
  · exact hstrays List.mem_cons_self (by decide +kernel) (by decide +kernel)
  · exact hstrays (List.mem_cons_of_mem _ List.mem_cons_self) (by decide +kernel)
      (by decide +kernel)

end TextureDirectory

end ShadingExport
