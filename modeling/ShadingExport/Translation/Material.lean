import ShadingExport.Translation.Surface

/-!
# Materials

What becomes of a host material: the translation of its tree, a flat color if no tree counts, or a
placeholder. Exported names have underscores in place of spaces.
-/

namespace ShadingExport

/-- The name of a material in the renderer. -/
def exportedName (name : String) : String :=
  name.map fun char => if char = ' ' then '_' else char

/-- The name of the record that every export starts with. -/
def reservedName : String := "default"

/-- The record that every export starts with. -/
def reservedMaterial {τ : Type} : MaterialRecord τ := .flat reservedName (.grey 0.2)

/-- The color of placeholders, loud enough to stand out. -/
def placeholderColor : Color := ⟨1.0, 0.0, 0.3⟩

/-- The placeholder of a material. -/
def placeholderMaterial {τ : Type} (name : String) : MaterialRecord τ :=
  .flat (exportedName name) placeholderColor

namespace HostMaterial

/-- The material that a host creates on its own and that is never exported. -/
def ignoredName : String := "Dots Stroke"

/-- The material is in use and not one of the host's own. -/
def isWanted (material : HostMaterial) : Bool :=
  material.users > 0 && material.name != ignoredName

/-- The record of a material whose tree does not count; a color that is none is replaced by that
of placeholders. -/
def flatRecord (material : HostMaterial) : MaterialRecord Image :=
  .flat (exportedName material.name) (material.diffuseColor.color?.getD placeholderColor)

/-- The record of a material. A tree that cannot be translated is reported and replaced by a
placeholder. -/
def translate (material : HostMaterial) (mode : GlossyMode) : Settled (MaterialRecord Image) :=
  match material.activeTree? with
  | none => ⟨[], material.flatRecord⟩
  | some tree =>
    (tree.surface mode (exportedName material.name)).settle fun error =>
      (.materialFailed material.name error, placeholderMaterial material.name)

end HostMaterial

end ShadingExport
