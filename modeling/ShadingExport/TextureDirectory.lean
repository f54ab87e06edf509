import ShadingExport.Snapshot.Basic

/-!
# The texture directory

Every image that a translation asks for gets a file of its own in one directory. An image keeps the
path it was given first, and a new one gets the file name of its host path or, if that is taken,
the name behind the least number that makes it free. Nothing is copied here: the placements say
which copies are due, in the order of the first requests.
-/

namespace ShadingExport

/-! ## File names -/

/-- A host path without the double slashes that mark it as relative to the host's document. -/
def dropRelativeMark : List Char → List Char
  | '/' :: '/' :: rest => dropRelativeMark rest
  | path => path

/-- The parts of a path between slashes, some of which may be empty. -/
def pathParts : List Char → List (List Char)
  | [] => [[]]
  | char :: rest =>
    if char = '/' then [] :: pathParts rest
    else
      match pathParts rest with
      -- There is always a part, but the type of lists does not say so.
      | [] => [[char]]
      | part :: parts => (char :: part) :: parts

/-- The file that a path names: its last part, where empty parts and single dots do not count. A
path that ends in a step upwards names no file. -/
def pathFile? (path : List Char) : Option (List Char) :=
  match ((pathParts path).filter fun part => part ≠ [] && part ≠ ['.']).getLast? with
  | some part => if part = ['.', '.'] then none else some part
  | none => none

/-- The file name of an image: that of its host path or, if it has none, its name. -/
def Image.fileName (image : Image) : String :=
  match pathFile? (dropRelativeMark image.filepath.toList) with
  | some file => String.ofList file
  | none => image.name ++ ".png"

/-- A directory without the slashes at its end. -/
def dropTrailingSlashes (directory : String) : String :=
  String.ofList (directory.toList.reverse.dropWhile (· = '/')).reverse

/-- The path of a file in a directory; the empty directory leaves file names as they are. -/
def joinPath (directory file : String) : String :=
  if directory.isEmpty then file else dropTrailingSlashes directory ++ "/" ++ file

/-- The file names to try for a wanted one: the name itself, then the name behind 1, 2, … -/
def numberedName (file : String) : Nat → String
  | 0 => file
  | number + 1 => toString (number + 1) ++ "_" ++ file

/-! ## Placements -/

/-- An image with its place. -/
structure Placement where
  /-- The image. -/
  image : Image
  /-- The path of its file, relative to the scene. -/
  destination : String
  deriving DecidableEq, Repr

/-- A directory of textures. -/
structure TextureDirectory where
  /-- The directory. -/
  directory : String
  /-- The images placed so far, in the order of their first requests. -/
  placements : List Placement := []
  deriving DecidableEq, Repr

namespace TextureDirectory

/-- The paths that are taken. -/
def taken (textures : TextureDirectory) : List String :=
  textures.placements.map Placement.destination

/-- The path of an image that has been placed. -/
def path? (textures : TextureDirectory) (image : Image) : Option String :=
  (textures.placements.find? (·.image == image)).map Placement.destination

/-- The paths to try for an image, in this order. -/
def candidate (textures : TextureDirectory) (image : Image) (number : Nat) : String :=
  joinPath textures.directory (numberedName image.fileName number)

/-- The first path for an image that is free. Candidates are distinct, so one more of them than
there are paths taken is enough. -/
def freePath (textures : TextureDirectory) (image : Image) : String :=
  (((List.range (textures.taken.length + 1)).map (textures.candidate image)).find?
    fun path => !textures.taken.contains path).getD (textures.candidate image 0)

/-- The path of an image: the one it has, or the one it would be given. -/
def path (textures : TextureDirectory) (image : Image) : String :=
  (textures.path? image).getD (textures.freePath image)

/-- Gives an image a place, unless it has one. -/
def place (textures : TextureDirectory) (image : Image) : TextureDirectory :=
  match textures.path? image with
  | some _ => textures
  | none =>
    { textures with placements := textures.placements ++ [⟨image, textures.freePath image⟩] }

/-- Gives images places, in order. -/
def placeAll (textures : TextureDirectory) (images : List Image) : TextureDirectory :=
  images.foldl place textures

/-- The copies that are due, as pairs of source and destination. -/
def copies (textures : TextureDirectory) : List (String × String) :=
  textures.placements.map fun placement => (placement.image.filepath, placement.destination)

/-- An image is placed at the path it was said to have. -/
theorem path?_place_self (textures : TextureDirectory) (image : Image) :
    (textures.place image).path? image = some (textures.path image) := by
  unfold place path
  cases found : textures.path? image with
  | some path => simpa using found
  | none =>
    have absent : textures.placements.find? (·.image == image) = none := by
      simpa [path?] using found
    simp [path?, List.find?_append, absent]

/-- Placing an image does not move another one. -/
theorem path?_place_of_isSome {textures : TextureDirectory} {image : Image} (other : Image)
    (placed : (textures.path? image).isSome) :
    (textures.place other).path? image = textures.path? image := by
  unfold place
  cases textures.path? other with
  | some _ => rfl
  | none =>
    have present : (textures.placements.find? (·.image == image)).isSome := by
      simpa [path?] using placed
    simp only [path?, List.find?_append]
    rw [Option.or_of_isSome present]

@[simp] theorem placeAll_nil (textures : TextureDirectory) : textures.placeAll [] = textures := rfl

@[simp] theorem placeAll_append (textures : TextureDirectory) (first second : List Image) :
    textures.placeAll (first ++ second) = (textures.placeAll first).placeAll second :=
  List.foldl_append

end TextureDirectory

end ShadingExport
