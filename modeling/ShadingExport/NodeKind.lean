/-!
# Node kinds and distributions

`NodeKind` is the closed set of node types that a translation knows; every other host type is kept
under its own name, so that a failure can tell it. `Distribution` is the microfacet attribute of
glossy and glass nodes as the host names it, and `Microfacet` its counterpart in the renderer.
-/

namespace ShadingExport

/-- The kind of a shading node. -/
inductive NodeKind where
  /-- A diffuse surface. -/
  | diffuse
  /-- A glossy surface. -/
  | glossy
  /-- A glass surface. -/
  | glass
  /-- An emitter. -/
  | emission
  /-- A mixture of two surfaces. -/
  | mix
  /-- An image texture. -/
  | imageTexture
  /-- A normal map. -/
  | normalMap
  /-- A Fresnel factor. -/
  | fresnel
  /-- A constant color. -/
  | rgb
  /-- An environment texture. -/
  | environmentTexture
  /-- A transformation of texture coordinates. -/
  | mapping
  /-- A source of texture coordinates. -/
  | textureCoordinate
  /-- The radiance of a world. -/
  | background
  /-- The output of a tree. -/
  | output
  /-- A host type without a counterpart. -/
  | unsupported (idname : String)
  deriving DecidableEq, Repr, Inhabited

namespace NodeKind

/-- The kind of a host type. Material and world trees have outputs of different types. -/
def ofIdname : String → NodeKind
  | "ShaderNodeBsdfDiffuse" => .diffuse
  | "ShaderNodeBsdfGlossy" => .glossy
  | "ShaderNodeBsdfGlass" => .glass
  | "ShaderNodeEmission" => .emission
  | "ShaderNodeMixShader" => .mix
  | "ShaderNodeTexImage" => .imageTexture
  | "ShaderNodeNormalMap" => .normalMap
  | "ShaderNodeFresnel" => .fresnel
  | "ShaderNodeRGB" => .rgb
  | "ShaderNodeTexEnvironment" => .environmentTexture
  | "ShaderNodeMapping" => .mapping
  | "ShaderNodeTexCoord" => .textureCoordinate
  | "ShaderNodeBackground" => .background
  | "ShaderNodeOutputMaterial" => .output
  | "ShaderNodeOutputWorld" => .output
  | other => .unsupported other

/-- The host type of a kind; for outputs, that of material trees. -/
def idname : NodeKind → String
  | .diffuse => "ShaderNodeBsdfDiffuse"
  | .glossy => "ShaderNodeBsdfGlossy"
  | .glass => "ShaderNodeBsdfGlass"
  | .emission => "ShaderNodeEmission"
  | .mix => "ShaderNodeMixShader"
  | .imageTexture => "ShaderNodeTexImage"
  | .normalMap => "ShaderNodeNormalMap"
  | .fresnel => "ShaderNodeFresnel"
  | .rgb => "ShaderNodeRGB"
  | .environmentTexture => "ShaderNodeTexEnvironment"
  | .mapping => "ShaderNodeMapping"
  | .textureCoordinate => "ShaderNodeTexCoord"
  | .background => "ShaderNodeBackground"
  | .output => "ShaderNodeOutputMaterial"
  | .unsupported idname => idname

end NodeKind

/-- The microfacet distribution of a host node. -/
inductive Distribution where
  /-- Ideal specular reflection. -/
  | sharp
  /-- Trowbridge-Reitz. -/
  | ggx
  /-- Beckmann. -/
  | beckmann
  /-- Ashikhmin-Shirley. -/
  | ashikhminShirley
  /-- Trowbridge-Reitz with multiple scattering. -/
  | multiGgx
  deriving DecidableEq, Repr, Inhabited

/-- The distribution that a host attribute names. -/
def Distribution.ofName? : String → Option Distribution
  | "SHARP" => some .sharp
  | "GGX" => some .ggx
  | "BECKMANN" => some .beckmann
  | "ASHIKHMIN_SHIRLEY" => some .ashikhminShirley
  | "MULTI_GGX" => some .multiGgx
  | _ => none

/-- The microfacet distribution of a renderer material. -/
inductive Microfacet where
  /-- Trowbridge-Reitz. -/
  | ggx
  /-- Beckmann. -/
  | beckmann
  /-- Blinn. -/
  | blinn
  deriving DecidableEq, Repr, Inhabited

/-- The name of a microfacet distribution in the renderer. -/
def Microfacet.name : Microfacet → String
  | .ggx => "ggx"
  | .beckmann => "beckmann"
  | .blinn => "blinn"

/-- The renderer's counterpart of a host distribution; ideal specular reflection has none. -/
def Distribution.microfacet? : Distribution → Option Microfacet
  | .sharp => none
  | .ggx => some .ggx
  | .beckmann => some .beckmann
  | .ashikhminShirley => some .blinn
  | .multiGgx => some .ggx

end ShadingExport
