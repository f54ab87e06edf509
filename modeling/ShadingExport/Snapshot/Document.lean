import ShadingExport.Json.Document
import ShadingExport.Snapshot.Json
import ShadingExport.Snapshot.NodeType

/-!
# Snapshot documents

A snapshot arrives as the text of a document. `Scene.parse?` reads it as it stands, and
`Scene.load?` completes its node trees with the defaults of their node types.
-/

namespace ShadingExport

/-- The value of a document whose content is read by `decode`. -/
def Json.decodeText? {α : Type} (decode : Json → Option α) (text : String) : Option α :=
  (Json.parse? text).bind decode

/-- The scene of a document, as it stands. -/
def Scene.parse? (text : String) : Option Scene :=
  Json.decodeText? Scene.ofJson? text

/-- The scene of a document, with host defaults filled in. -/
def Scene.load? (text : String) : Option Scene :=
  (Scene.parse? text).map Scene.fillDefaults

end ShadingExport
