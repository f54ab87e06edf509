import ShadingExport.Json.Fields

/-!
# Export settings

How materials are written, which material family stands for glossy shaders, and where textures go.
A mode can be given by name on a command line, where letter case does not matter and a failure
quotes the name in lower case, or in a document, where the name has to be exact.
-/

namespace ShadingExport

/-- How materials are written. -/
inductive MaterialMode where
  /-- Translate the shading graph of every material in use. -/
  | convert
  /-- Ignore shading graphs and write a placeholder per material in use. -/
  | flatten
  deriving DecidableEq, Repr, Inhabited

/-- The material family that stands for glossy shaders. -/
inductive GlossyMode where
  /-- Conductors with a microfacet distribution. -/
  | roughConductor
  /-- Blinn-Phong reflection. -/
  | blinnPhong
  /-- Phong reflection. -/
  | phong
  /-- Metals without a distribution. -/
  | metal
  deriving DecidableEq, Repr, Inhabited

/-- A mode name that is not known, in lower case. -/
inductive ModeError where
  /-- There is no such material mode. -/
  | unknownMaterialMode (name : String)
  /-- There is no such glossy mode. -/
  | unknownGlossyMode (name : String)
  deriving DecidableEq, Repr

/-- The text of an error in a mode name. -/
def ModeError.message : ModeError → String
  | .unknownMaterialMode name => s!"unknown material mode: {name} (supported: convert, flatten)"
  | .unknownGlossyMode name =>
    s!"unknown glossy mode: {name} (supported: rough-conductor, blinn-phong, phong, metal)"

/-- The variant that a JSON value writes: its name, or an object with the name as its only key and
`null` as its value. -/
def Json.variant? {α : Type} (ofName? : String → Option α) : Json → Option α
  | .string name => ofName? name
  | .object [(name, .null)] => ofName? name
  | _ => none

namespace MaterialMode

/-- The name in documents. -/
def name : MaterialMode → String
  | .convert => "convert"
  | .flatten => "flatten"

/-- The name in diagnostics. -/
def label : MaterialMode → String
  | .convert => "Convert"
  | .flatten => "Flatten"

/-- The mode of an exact name. -/
def ofName? : String → Option MaterialMode
  | "convert" => some .convert
  | "flatten" => some .flatten
  | _ => none

/-- The mode of a name in any letter case; a flat material is also called lambertian. -/
def parse (text : String) : Except ModeError MaterialMode :=
  match text.toLower with
  | "convert" => .ok .convert
  | "flatten" => .ok .flatten
  | "lambertian" => .ok .flatten
  | other => .error (.unknownMaterialMode other)

@[simp] theorem ofName?_name (mode : MaterialMode) : ofName? mode.name = some mode := by
  cases mode <;> rfl

end MaterialMode

namespace GlossyMode

/-- The name in documents. -/
def name : GlossyMode → String
  | .roughConductor => "rough conductor"
  | .blinnPhong => "blinn-phong"
  | .phong => "phong"
  | .metal => "metal"

/-- The name in diagnostics. -/
def label : GlossyMode → String
  | .roughConductor => "RoughConductor"
  | .blinnPhong => "BlinnPhong"
  | .phong => "Phong"
  | .metal => "Metal"

/-- The mode of an exact name. -/
def ofName? : String → Option GlossyMode
  | "rough conductor" => some .roughConductor
  | "rough-conductor" => some .roughConductor
  | "blinn-phong" => some .blinnPhong
  | "phong" => some .phong
  | "metal" => some .metal
  | _ => none

/-- The mode of a name in any letter case. -/
def parse (text : String) : Except ModeError GlossyMode :=
  match ofName? text.toLower with
  | some mode => .ok mode
  | none => .error (.unknownGlossyMode text.toLower)

@[simp] theorem ofName?_name (mode : GlossyMode) : ofName? mode.name = some mode := by
  cases mode <;> rfl

end GlossyMode

/-- The settings of an export. -/
structure Settings where
  /-- How materials are written. -/
  materialMode : MaterialMode := .convert
  /-- The material family that stands for glossy shaders. -/
  glossyMode : GlossyMode := .roughConductor
  /-- The directory, relative to the scene file, that receives the textures. -/
  textureDirectory : String := "textures"
  deriving DecidableEq, Repr, Inhabited

namespace Settings

/-- Settings are written as an object with all fields. -/
def toJson (settings : Settings) : Json :=
  .object [
    ("materialMode", .string settings.materialMode.name),
    ("glossyMode", .string settings.glossyMode.name),
    ("textureDir", .string settings.textureDirectory)]

/-- The settings that a JSON value writes; what is left out has its default. -/
def ofJson? (json : Json) : Option Settings := do
  let defaults : Settings := {}
  let fields ← Json.Fields.of? ["materialMode", "glossyMode", "textureDir"] 0 json
  return {
    materialMode := ← fields.withDefault "materialMode" defaults.materialMode
      (Json.variant? MaterialMode.ofName?)
    glossyMode := ← fields.withDefault "glossyMode" defaults.glossyMode
      (Json.variant? GlossyMode.ofName?)
    textureDirectory := ← fields.withDefault "textureDir" defaults.textureDirectory
      Json.string? }

/-- Settings are read back from what they write. -/
@[simp] theorem ofJson?_toJson (settings : Settings) : ofJson? settings.toJson = some settings := by
  simp [ofJson?, toJson, Json.Fields.of?, Json.Fields.withDefault, List.lookup_cons, Json.variant?]

end Settings

end ShadingExport
