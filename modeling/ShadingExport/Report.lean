import ShadingExport.TranslationError

/-!
# Reports and traces

What an export tells about itself. A `Report` is meant for the user: progress, or a warning about
something that was dropped or replaced. A `Trace` is meant for whoever looks into an export. Both
are data with a wording; nothing that is exported depends on them.
-/

namespace ShadingExport

/-- How much a report matters. -/
inductive Severity where
  /-- Progress. -/
  | info
  /-- Something was dropped or replaced. -/
  | warning
  deriving DecidableEq, Repr

/-- A message to the user. -/
inductive Report where
  /-- The placeholder that every export starts with is written. -/
  | writingDefault
  /-- A material is written. -/
  | writing (material : String)
  /-- The scene has no world. -/
  | noWorld
  /-- The world has no strength. -/
  | zeroStrength
  /-- The world emits nothing. -/
  | zeroRadiance
  /-- The world tree has no output. -/
  | worldWithoutOutput
  /-- The world could not be translated. -/
  | worldFailed (cause : TranslationError)
  /-- The roughness of a diffuse node is ignored. -/
  | roughDiffuse (node : String)
  /-- The link of an index of refraction is ignored. -/
  | texturedIor
  /-- An emitter emits nothing. -/
  | zeroEmission (node : String)
  /-- The color space of an image is neither sRGB nor a data space. -/
  | colorSpace (image colorspace : String)
  /-- A material could not be translated. -/
  | materialFailed (material : String) (cause : TranslationError)
  /-- The exported name of a material belongs to another material. -/
  | nameTaken (material exported owner : String)
  /-- The exported name of a material is reserved. -/
  | nameReserved (material exported : String)
  /-- An object uses a material that the scene does not have. -/
  | unknownMaterial (object material : String)
  deriving DecidableEq, Repr

namespace Report

/-- How much a report matters. -/
def severity : Report → Severity
  | .writingDefault => .info
  | .writing _ => .info
  | .noWorld => .info
  | .zeroStrength => .info
  | .zeroRadiance => .info
  | _ => .warning

/-- The text of a report. -/
def message : Report → String
  | .writingDefault => "Writing default lambertian material"
  | .writing material => s!"Writing material: {material}"
  | .noWorld => "No world to export."
  | .zeroStrength => "Ignoring envmap with zero strength."
  | .zeroRadiance => "Ignoring background emitter with zero emission."
  | .worldWithoutOutput => "Failed to export world: Cannot find world output node."
  | .worldFailed cause => s!"Error while converting background: {cause.message}. Using default."
  | .roughDiffuse node =>
    s!"Rough diffuse BSDF '{node}' is not supported. Ignoring its roughness."
  | .texturedIor => "Textured IOR values are not supported. Using the default value instead."
  | .zeroEmission node =>
    s!"Emitter '{node}' has zero emission and would break light sampling. "
      ++ "Exporting a black diffuse material instead."
  | .colorSpace image colorspace =>
    s!"Texture '{image}' uses color space '{colorspace}'; "
      ++ "only sRGB is supported for color data."
  | .materialFailed material cause =>
    s!"Export of material '{material}' failed: {cause.message}. "
      ++ "Exporting a dummy material instead."
  | .nameTaken material exported owner =>
    s!"Material '{material}' is exported as '{exported}', "
      ++ s!"which material '{owner}' already uses. Skipping it."
  | .nameReserved material exported =>
    s!"Material '{material}' is exported as '{exported}', which is reserved. Skipping it."
  | .unknownMaterial object material =>
    s!"Object '{object}' uses unknown material '{material}'. Skipping it."

end Report

/-- A note on the course of an export. -/
inductive Trace where
  /-- The translation of a shading node starts. -/
  | translating (kind : NodeKind) (node : String)
  /-- A material is met again. -/
  | alreadyExported (name : String)
  deriving DecidableEq, Repr

/-- The text of a trace. -/
def Trace.message : Trace → String
  | .translating kind node => s!"translating {kind.idname} node '{node}'"
  | .alreadyExported name => s!"material '{name}' already exported"

end ShadingExport
