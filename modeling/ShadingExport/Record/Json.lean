import ShadingExport.Record.Basic

/-!
# Renderer materials in JSON

The renderer tells values apart by their shape and by a `type` member: a number or an array of
three numbers is a constant, an object a texture, a Fresnel factor, a material or an environment
map. Optional parts that are absent leave no member behind. A record starts with its name, if it
has one, and its type.
-/

namespace ShadingExport

/-- A member that is written only if it is present. -/
def Json.optionalMember {α : Type} (key : String) (encode : α → Json) :
    Option α → List (String × Json)
  | none => []
  | some value => [(key, encode value)]

/-- A texture in JSON; the member `raw` is written only where it is true. -/
def ImageTexture.toJson (texture : ImageTexture String) : Json :=
  .object ([("type", .string "image"), ("filename", .string texture.file)] ++
    (if texture.raw then [("raw", .bool true)] else []))

/-- A number that may vary in JSON. -/
def VaryingScalar.toJson : VaryingScalar String → Json
  | .constant value => .ofFloat value
  | .texture reference => reference.toJson
  | .fresnel ior => .object [("type", .string "fresnel"), ("ior", .ofFloat ior)]

/-- A color that may vary in JSON. -/
def VaryingColor.toJson : VaryingColor String → Json
  | .constant color => color.toJson
  | .texture reference => reference.toJson

/-- A microfacet distribution in JSON. -/
def Microfacet.toJson (distribution : Microfacet) : Json := .string distribution.name

/-- The transmittance of a refracting material, if it has one. -/
def transmittanceMember (transmittance : Option (VaryingColor String)) : List (String × Json) :=
  Json.optionalMember "specular_transmittance" VaryingColor.toJson transmittance

namespace MaterialRecord

/-- The members that a record starts with. -/
def head (name : Option String) (type : String) : List (String × Json) :=
  Json.optionalMember "name" Json.string name ++ [("type", .string type)]

/-- The members of a record in JSON. -/
def members : MaterialRecord String → List (String × Json)
  | ⟨name, .lambertian albedo⟩ =>
    head name "lambertian" ++ Json.optionalMember "albedo" VaryingColor.toJson albedo
  | ⟨name, .roughConductor roughness distribution color⟩ =>
    head name "rough conductor" ++ [
      ("roughness", roughness.toJson),
      ("distribution", distribution.toJson),
      ("color", color.toJson)]
  | ⟨name, .conductor color⟩ => head name "conductor" ++ [("color", color.toJson)]
  | ⟨name, .blinnPhong exponent distribution albedo⟩ =>
    head name "blinn-phong" ++ [
      ("exponent", .ofFloat exponent),
      ("distribution", distribution.toJson),
      ("albedo", albedo.toJson)]
  | ⟨name, .phong exponent distribution albedo⟩ =>
    head name "phong" ++ [
      ("exponent", .ofFloat exponent),
      ("distribution", distribution.toJson),
      ("albedo", albedo.toJson)]
  | ⟨name, .metal roughness albedo⟩ =>
    head name "metal" ++ [("roughness", roughness.toJson), ("albedo", albedo.toJson)]
  | ⟨name, .dielectric ior transmittance⟩ =>
    head name "dielectric" ++ [("ior", .ofFloat ior)] ++ transmittanceMember transmittance
  | ⟨name, .thinDielectric ior transmittance⟩ =>
    head name "thin dielectric" ++ [("ior", .ofFloat ior)] ++ transmittanceMember transmittance
  | ⟨name, .roughDielectric roughness distribution ior transmittance⟩ =>
    head name "rough dielectric" ++ [
      ("roughness", roughness.toJson),
      ("distribution", distribution.toJson),
      ("ior", .ofFloat ior)] ++ transmittanceMember transmittance
  | ⟨name, .diffuseLight emit⟩ => head name "diffuse_light" ++ [("emit", emit.toJson)]
  | ⟨name, .blend amount first second⟩ =>
    head name "blend" ++ [
      ("amount", amount.toJson),
      ("a", .object first.members),
      ("b", .object second.members)]
  | ⟨name, .normalMap normals strength nested⟩ =>
    head name "normal map" ++ [("normals", normals.toJson)]
      ++ Json.optionalMember "strength" Json.ofFloat strength
      ++ [("nested", .object nested.members)]

/-- A record in JSON. -/
def toJson (record : MaterialRecord String) : Json := .object record.members

end MaterialRecord

/-- A transformation in JSON: its entries row by row. -/
def Matrix.toJson (matrix : Matrix Float) : Json :=
  .object [("matrix", .array (matrix.rowMajor.map Json.ofFloat))]

/-- An environment map in JSON. -/
def Envmap.toJson (envmap : Envmap String) : Json :=
  .object ([
    ("type", .string "envmap"),
    ("filename", .string envmap.file),
    ("scale", .ofFloat envmap.scale)]
    ++ Json.optionalMember "transform" Matrix.toJson envmap.transform)

/-- A background in JSON. -/
def Background.toJson : Background String → Json
  | .constant radiance => radiance.toJson
  | .environment envmap => envmap.toJson

/-- An export in JSON. -/
def ExportedScene.toJson (result : ExportedScene String) : Json :=
  .object [
    ("background", result.background.toJson),
    ("materials", .array (result.materials.map MaterialRecord.toJson))]

end ShadingExport
