import ShadingExport.Literal
import ShadingExport.NodeKind

/-!
# Renderer materials

What an export consists of: named material records and the background. The types take the
reference to a texture's file as a parameter `τ`. A translation gives records over images, which
say which image a texture is; once every image has its place, `map` turns them into records over
paths. Mapping keeps the identity and composition (`MaterialRecord.map_id`,
`MaterialRecord.map_map`), and `MaterialRecord.files` lists the references in a record.
-/

namespace ShadingExport

/-- An image texture of the renderer. -/
structure ImageTexture (τ : Type) where
  /-- The file of the texture. -/
  file : τ
  /-- The pixels are data and must not be decoded as colors. -/
  raw : Bool
  deriving DecidableEq, Repr

/-- A number that may vary over a surface. -/
inductive VaryingScalar (τ : Type) where
  /-- The same number everywhere. -/
  | constant (value : Float)
  /-- The brightness of a texture. -/
  | texture (reference : ImageTexture τ)
  /-- The Fresnel factor of an index of refraction. -/
  | fresnel (ior : Float)
  deriving DecidableEq, Repr

/-- A color that may vary over a surface. -/
inductive VaryingColor (τ : Type) where
  /-- The same color everywhere. -/
  | constant (color : Color)
  /-- The color of a texture. -/
  | texture (reference : ImageTexture τ)
  deriving DecidableEq, Repr

/-- The body of a material, where `ρ` is the type of the records it nests. -/
inductive Material (τ ρ : Type) where
  /-- A diffuse surface. -/
  | lambertian (albedo : Option (VaryingColor τ))
  /-- A conductor with a microfacet distribution. -/
  | roughConductor (roughness : VaryingScalar τ) (distribution : Microfacet)
      (color : VaryingColor τ)
  /-- A perfectly smooth conductor. -/
  | conductor (color : VaryingColor τ)
  /-- Blinn-Phong reflection. -/
  | blinnPhong (exponent : Float) (distribution : Microfacet) (albedo : VaryingColor τ)
  /-- Phong reflection. -/
  | phong (exponent : Float) (distribution : Microfacet) (albedo : VaryingColor τ)
  /-- A metal. -/
  | metal (roughness : VaryingScalar τ) (albedo : VaryingColor τ)
  /-- A smooth refracting surface. -/
  | dielectric (ior : Float) (transmittance : Option (VaryingColor τ))
  /-- A refracting sheet that does not bend light. -/
  | thinDielectric (ior : Float) (transmittance : Option (VaryingColor τ))
  /-- A refracting surface with a microfacet distribution. -/
  | roughDielectric (roughness : VaryingScalar τ) (distribution : Microfacet) (ior : Float)
      (transmittance : Option (VaryingColor τ))
  /-- A light. -/
  | diffuseLight (emit : Color)
  /-- A mixture of two materials. -/
  | blend (amount : VaryingScalar τ) (first second : ρ)
  /-- A material with perturbed normals. -/
  | normalMap (normals : VaryingColor τ) (strength : Option Float) (nested : ρ)
  deriving DecidableEq, Repr

/-- The name that the renderer has for a material. -/
def Material.typeName {τ ρ : Type} : Material τ ρ → String
  | .lambertian .. => "lambertian"
  | .roughConductor .. => "rough conductor"
  | .conductor .. => "conductor"
  | .blinnPhong .. => "blinn-phong"
  | .phong .. => "phong"
  | .metal .. => "metal"
  | .dielectric .. => "dielectric"
  | .thinDielectric .. => "thin dielectric"
  | .roughDielectric .. => "rough dielectric"
  | .diffuseLight .. => "diffuse_light"
  | .blend .. => "blend"
  | .normalMap .. => "normal map"

/-- A material entry: a body, with a name if the renderer can refer to it. -/
structure MaterialRecord (τ : Type) where
  /-- The name of the entry. -/
  name : Option String
  /-- What the entry looks like. -/
  material : Material τ (MaterialRecord τ)

/-- An environment map. -/
structure Envmap (τ : Type) where
  /-- The file of the map. -/
  file : τ
  /-- The factor on the radiance of the map. -/
  scale : Float
  /-- The transformation of directions. -/
  transform : Option (Matrix Float)
  deriving DecidableEq, Repr

/-- The light around a scene. -/
inductive Background (τ : Type) where
  /-- The same radiance from everywhere. -/
  | constant (radiance : Color)
  /-- An environment map. -/
  | environment (envmap : Envmap τ)
  deriving DecidableEq, Repr

/-- What an export contributes to the scene of a renderer. -/
structure ExportedScene (τ : Type) where
  /-- The light around the scene. -/
  background : Background τ
  /-- The materials. -/
  materials : List (MaterialRecord τ)

variable {τ σ υ : Type}

/-- Renames the file of a texture. -/
def ImageTexture.map (rename : τ → σ) (texture : ImageTexture τ) : ImageTexture σ :=
  ⟨rename texture.file, texture.raw⟩

namespace VaryingScalar

/-- Renames the files in a number. -/
def map (rename : τ → σ) : VaryingScalar τ → VaryingScalar σ
  | .constant value => .constant value
  | .texture reference => .texture (reference.map rename)
  | .fresnel ior => .fresnel ior

/-- The files in a number. -/
def files : VaryingScalar τ → List τ
  | .texture reference => [reference.file]
  | _ => []

/-- The number is the literal zero; what varies is never taken for zero. -/
def isZero : VaryingScalar τ → Bool
  | .constant value => value == 0
  | _ => false

end VaryingScalar

namespace VaryingColor

/-- Renames the files in a color. -/
def map (rename : τ → σ) : VaryingColor τ → VaryingColor σ
  | .constant color => .constant color
  | .texture reference => .texture (reference.map rename)

/-- The files in a color. -/
def files : VaryingColor τ → List τ
  | .texture reference => [reference.file]
  | _ => []

end VaryingColor

/-- The files in an optional color. -/
def optionalFiles : Option (VaryingColor τ) → List τ
  | some color => color.files
  | none => []

namespace MaterialRecord

/-- Renames the files in a record. -/
def map (rename : τ → σ) : MaterialRecord τ → MaterialRecord σ
  | ⟨name, .lambertian albedo⟩ => ⟨name, .lambertian (albedo.map (·.map rename))⟩
  | ⟨name, .roughConductor roughness distribution color⟩ =>
    ⟨name, .roughConductor (roughness.map rename) distribution (color.map rename)⟩
  | ⟨name, .conductor color⟩ => ⟨name, .conductor (color.map rename)⟩
  | ⟨name, .blinnPhong exponent distribution albedo⟩ =>
    ⟨name, .blinnPhong exponent distribution (albedo.map rename)⟩
  | ⟨name, .phong exponent distribution albedo⟩ =>
    ⟨name, .phong exponent distribution (albedo.map rename)⟩
  | ⟨name, .metal roughness albedo⟩ => ⟨name, .metal (roughness.map rename) (albedo.map rename)⟩
  | ⟨name, .dielectric ior transmittance⟩ =>
    ⟨name, .dielectric ior (transmittance.map (·.map rename))⟩
  | ⟨name, .thinDielectric ior transmittance⟩ =>
    ⟨name, .thinDielectric ior (transmittance.map (·.map rename))⟩
  | ⟨name, .roughDielectric roughness distribution ior transmittance⟩ =>
    ⟨name, .roughDielectric (roughness.map rename) distribution ior
      (transmittance.map (·.map rename))⟩
  | ⟨name, .diffuseLight emit⟩ => ⟨name, .diffuseLight emit⟩
  | ⟨name, .blend amount first second⟩ =>
    ⟨name, .blend (amount.map rename) (first.map rename) (second.map rename)⟩
  | ⟨name, .normalMap normals strength nested⟩ =>
    ⟨name, .normalMap (normals.map rename) strength (nested.map rename)⟩

/-- The files in a record, at any depth. -/
def files : MaterialRecord τ → List τ
  | ⟨_, .lambertian albedo⟩ => optionalFiles albedo
  | ⟨_, .roughConductor roughness _ color⟩ => roughness.files ++ color.files
  | ⟨_, .conductor color⟩ => color.files
  | ⟨_, .blinnPhong _ _ albedo⟩ => albedo.files
  | ⟨_, .phong _ _ albedo⟩ => albedo.files
  | ⟨_, .metal roughness albedo⟩ => roughness.files ++ albedo.files
  | ⟨_, .dielectric _ transmittance⟩ => optionalFiles transmittance
  | ⟨_, .thinDielectric _ transmittance⟩ => optionalFiles transmittance
  | ⟨_, .roughDielectric roughness _ _ transmittance⟩ =>
    roughness.files ++ optionalFiles transmittance
  | ⟨_, .diffuseLight _⟩ => []
  | ⟨_, .blend amount first second⟩ => amount.files ++ first.files ++ second.files
  | ⟨_, .normalMap normals _ nested⟩ => normals.files ++ nested.files

/-- A flat diffuse record. -/
def flat (name : String) (albedo : Color) : MaterialRecord τ :=
  ⟨some name, .lambertian (some (.constant albedo))⟩

end MaterialRecord

namespace Background

/-- Renames the file of a background. -/
def map (rename : τ → σ) : Background τ → Background σ
  | .constant radiance => .constant radiance
  | .environment envmap => .environment ⟨rename envmap.file, envmap.scale, envmap.transform⟩

/-- The files of a background. -/
def files : Background τ → List τ
  | .constant _ => []
  | .environment envmap => [envmap.file]

end Background

/-! ## Mapping keeps identity and composition -/

@[simp] theorem ImageTexture.map_id (texture : ImageTexture τ) : texture.map id = texture := rfl

@[simp] theorem ImageTexture.map_map (first : τ → σ) (second : σ → υ) (texture : ImageTexture τ) :
    (texture.map first).map second = texture.map (second ∘ first) := rfl

@[simp] theorem VaryingScalar.map_id (value : VaryingScalar τ) : value.map id = value := by
  cases value <;> rfl

@[simp] theorem VaryingScalar.map_map (first : τ → σ) (second : σ → υ) (value : VaryingScalar τ) :
    (value.map first).map second = value.map (second ∘ first) := by
  cases value <;> rfl

@[simp] theorem VaryingScalar.files_map (rename : τ → σ) (value : VaryingScalar τ) :
    (value.map rename).files = value.files.map rename := by
  cases value <;> rfl

@[simp] theorem VaryingScalar.isZero_map (rename : τ → σ) (value : VaryingScalar τ) :
    (value.map rename).isZero = value.isZero := by
  cases value <;> rfl

@[simp] theorem VaryingColor.map_id (value : VaryingColor τ) : value.map id = value := by
  cases value <;> rfl

@[simp] theorem VaryingColor.map_map (first : τ → σ) (second : σ → υ) (value : VaryingColor τ) :
    (value.map first).map second = value.map (second ∘ first) := by
  cases value <;> rfl

@[simp] theorem VaryingColor.files_map (rename : τ → σ) (value : VaryingColor τ) :
    (value.map rename).files = value.files.map rename := by
  cases value <;> rfl

@[simp] theorem optionalFiles_map (rename : τ → σ) (value : Option (VaryingColor τ)) :
    optionalFiles (value.map (·.map rename)) = (optionalFiles value).map rename := by
  cases value <;> simp [optionalFiles]

namespace MaterialRecord

/-- Renaming no file changes nothing. -/
@[simp] theorem map_id : ∀ record : MaterialRecord τ, record.map id = record
  | ⟨_, .lambertian albedo⟩ => by cases albedo <;> simp [map]
  | ⟨_, .roughConductor ..⟩ => by simp [map]
  | ⟨_, .conductor _⟩ => by simp [map]
  | ⟨_, .blinnPhong ..⟩ => by simp [map]
  | ⟨_, .phong ..⟩ => by simp [map]
  | ⟨_, .metal ..⟩ => by simp [map]
  | ⟨_, .dielectric _ transmittance⟩ => by cases transmittance <;> simp [map]
  | ⟨_, .thinDielectric _ transmittance⟩ => by cases transmittance <;> simp [map]
  | ⟨_, .roughDielectric _ _ _ transmittance⟩ => by cases transmittance <;> simp [map]
  | ⟨_, .diffuseLight _⟩ => rfl
  | ⟨_, .blend _ first second⟩ => by simp [map, map_id first, map_id second]
  | ⟨_, .normalMap _ _ nested⟩ => by simp [map, map_id nested]

/-- Renaming twice is renaming once. -/
@[simp] theorem map_map (earlier : τ → σ) (later : σ → υ) :
    ∀ record : MaterialRecord τ, (record.map earlier).map later = record.map (later ∘ earlier)
  | ⟨_, .lambertian albedo⟩ => by cases albedo <;> simp [map]
  | ⟨_, .roughConductor ..⟩ => by simp [map]
  | ⟨_, .conductor _⟩ => by simp [map]
  | ⟨_, .blinnPhong ..⟩ => by simp [map]
  | ⟨_, .phong ..⟩ => by simp [map]
  | ⟨_, .metal ..⟩ => by simp [map]
  | ⟨_, .dielectric _ transmittance⟩ => by cases transmittance <;> simp [map]
  | ⟨_, .thinDielectric _ transmittance⟩ => by cases transmittance <;> simp [map]
  | ⟨_, .roughDielectric _ _ _ transmittance⟩ => by cases transmittance <;> simp [map]
  | ⟨_, .diffuseLight _⟩ => rfl
  | ⟨_, .blend _ first second⟩ => by
    simp [map, map_map earlier later first, map_map earlier later second]
  | ⟨_, .normalMap _ _ nested⟩ => by simp [map, map_map earlier later nested]

/-- The files in a renamed record are the renamed files. -/
@[simp] theorem files_map (rename : τ → σ) :
    ∀ record : MaterialRecord τ, (record.map rename).files = record.files.map rename
  | ⟨_, .lambertian albedo⟩ => by cases albedo <;> simp [map, files, optionalFiles]
  | ⟨_, .roughConductor ..⟩ => by simp [map, files]
  | ⟨_, .conductor _⟩ => by simp [map, files]
  | ⟨_, .blinnPhong ..⟩ => by simp [map, files]
  | ⟨_, .phong ..⟩ => by simp [map, files]
  | ⟨_, .metal ..⟩ => by simp [map, files]
  | ⟨_, .dielectric _ transmittance⟩ => by simp [map, files]
  | ⟨_, .thinDielectric _ transmittance⟩ => by simp [map, files]
  | ⟨_, .roughDielectric _ _ _ transmittance⟩ => by simp [map, files]
  | ⟨_, .diffuseLight _⟩ => rfl
  | ⟨_, .blend _ first second⟩ => by
    simp [map, files, files_map rename first, files_map rename second]
  | ⟨_, .normalMap _ _ nested⟩ => by simp [map, files, files_map rename nested]

/-- Renaming files keeps the name of a record. -/
@[simp] theorem name_map (rename : τ → σ) (record : MaterialRecord τ) :
    (record.map rename).name = record.name := by
  obtain ⟨name, material⟩ := record
  cases material <;> rfl

end MaterialRecord

@[simp] theorem Background.map_map (first : τ → σ) (second : σ → υ) (background : Background τ) :
    (background.map first).map second = background.map (second ∘ first) := by
  cases background <;> rfl

@[simp] theorem Background.files_map (rename : τ → σ) (background : Background τ) :
    (background.map rename).files = background.files.map rename := by
  cases background <;> rfl

end ShadingExport
