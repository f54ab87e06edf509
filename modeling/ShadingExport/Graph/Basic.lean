import ShadingExport.Snapshot.Basic
import ShadingExport.TranslationError

/-!
# Shading graphs

A `Graph` is what a translation reads: nodes with their kind, and at each input the literal that
the host stored there and the output that feeds it. Links name the node they come from by its id.
An input exists as soon as it has a literal or a link, and one without a link has a literal
(`ShadingNode.default_isSome_of_link_eq_none`).
-/

namespace ShadingExport

/-- The output that feeds an input. -/
structure Link where
  /-- The id of the node. -/
  node : String
  /-- The name of its output socket. -/
  output : String
  deriving DecidableEq, Repr, Inhabited

/-- An input socket. The host keeps a literal at linked inputs too. -/
structure Socket where
  /-- The name of the socket. -/
  name : String
  /-- The literal stored at the socket. -/
  default : Option Literal
  /-- The output that feeds the socket. -/
  link : Option Link
  deriving DecidableEq, Repr

namespace Socket

/-- The socket is fed by an output. -/
def isLinked (socket : Socket) : Bool := socket.link.isSome

/-- The literal stored at the socket, linked or not. -/
def getLiteral (socket : Socket) : Except TranslationError Literal :=
  match socket.default with
  | some literal => .ok literal
  | none => .error (.unsupportedFeature (.noLiteral socket.name))

/-- The number stored at the socket, linked or not. -/
def getNumber (socket : Socket) : Except TranslationError Float := do
  match (← socket.getLiteral).scalar? with
  | some value => .ok value
  | none => .error (.invalidLiteral socket.name .scalar)

/-- The color stored at the socket, linked or not. -/
def getColor (socket : Socket) : Except TranslationError Color := do
  match (← socket.getLiteral).color? with
  | some color => .ok color
  | none => .error (.invalidLiteral socket.name .color)

end Socket

/-- A node of a shading graph. -/
structure ShadingNode where
  /-- The id of the node. -/
  id : String
  /-- The kind of the node. -/
  kind : NodeKind
  /-- The literals stored at its inputs. -/
  literals : Table Literal
  /-- The outputs that feed its inputs. -/
  links : Table Link
  /-- The attributes of the node. -/
  params : Table Parameter
  /-- The image that the node samples. -/
  image : Option Image

namespace ShadingNode

/-- The input of a name: it exists if a literal is stored there or an output feeds it. -/
def input? (node : ShadingNode) (name : String) : Option Socket :=
  match node.literals.get? name, node.links.get? name with
  | none, none => none
  | literal, link => some ⟨name, literal, link⟩

/-- The input of a name, or the error that it is missing. -/
def getInput (node : ShadingNode) (name : String) : Except TranslationError Socket :=
  match node.input? name with
  | some socket => .ok socket
  | none => .error (.missingInput node.id name)

/-- The text that an attribute holds. -/
def attributeText? (node : ShadingNode) (key : String) : Option String :=
  (node.params.get? key).bind (·.json.string?)

/-- The truth value that an attribute holds. -/
def attributeFlag? (node : ShadingNode) (key : String) : Option Bool :=
  (node.params.get? key).bind (·.json.bool?)

/-- The literal that an attribute holds. -/
def attributeLiteral? (node : ShadingNode) (key : String) : Option Literal :=
  (node.params.get? key).bind (Literal.ofJson? ·.json)

/-- The color of a constant-color node. -/
def constantColor (node : ShadingNode) : Except TranslationError Color :=
  match (node.attributeLiteral? "color").bind Literal.color? with
  | some color => .ok color
  | none => .error (.invalidLiteral s!"{node.id}.color" .color)

/-- The microfacet distribution; the host's default is Trowbridge-Reitz. -/
def distribution (node : ShadingNode) : Except TranslationError Distribution :=
  Distribution.parse ((node.attributeText? "distribution").getD "GGX")

/-- The image that a texture node samples. -/
def getImage (node : ShadingNode) : Except TranslationError Image :=
  match node.image with
  | some image => .ok image
  | none => .error (.unsupportedFeature (.noImage node.id))

/-- An input is found under its own name. -/
theorem name_of_input? {node : ShadingNode} {name : String} {socket : Socket}
    (found : node.input? name = some socket) : socket.name = name := by
  unfold input? at found
  split at found
  · cases found
  · cases found; rfl

/-- An input holds the literal that the node stores under its name. -/
theorem default_of_input? {node : ShadingNode} {name : String} {socket : Socket}
    (found : node.input? name = some socket) : socket.default = node.literals.get? name := by
  unfold input? at found
  split at found
  · cases found
  · cases found; rfl

/-- An input is fed by the link that the node has under its name. -/
theorem link_of_input? {node : ShadingNode} {name : String} {socket : Socket}
    (found : node.input? name = some socket) : socket.link = node.links.get? name := by
  unfold input? at found
  split at found
  · cases found
  · cases found; rfl

/-- A node has an input exactly where it has a literal or a link. -/
theorem isSome_input? (node : ShadingNode) (name : String) :
    (node.input? name).isSome =
      ((node.literals.get? name).isSome || (node.links.get? name).isSome) := by
  unfold input?
  cases node.literals.get? name <;> cases node.links.get? name <;> rfl

/-- An input without a link has a literal. -/
theorem default_isSome_of_link_eq_none {node : ShadingNode} {name : String} {socket : Socket}
    (found : node.input? name = some socket) (unlinked : socket.link = none) :
    socket.default.isSome := by
  have present := isSome_input? node name
  rw [found, ← default_of_input? found, ← link_of_input? found, unlinked] at present
  simpa using present.symm

end ShadingNode

/-- A shading graph: its nodes in the order of the tree. -/
structure Graph where
  /-- The nodes. -/
  nodes : List ShadingNode

namespace Graph

/-- The number of nodes. -/
def size (graph : Graph) : Nat := graph.nodes.length

/-- The node of an id. -/
def node? (graph : Graph) (id : String) : Option ShadingNode :=
  graph.nodes.find? (·.id == id)

/-- The position of the node of an id. -/
def position? (graph : Graph) (id : String) : Option Nat :=
  graph.nodes.findIdx? (·.id == id)

/-- The node that feeds a socket. -/
def upstream? (graph : Graph) (socket : Socket) : Option ShadingNode :=
  socket.link.bind fun link => graph.node? link.node

/-- The node that feeds the input of a name. -/
def feeding? (graph : Graph) (node : ShadingNode) (name : String) : Option ShadingNode :=
  (node.input? name).bind graph.upstream?

/-- The output nodes. -/
def outputs (graph : Graph) : List ShadingNode :=
  graph.nodes.filter (·.kind == .output)

/-- The output that counts. The first one does unless it is marked inactive; then it is the first
later one that is marked active, if there is one. -/
def output? (graph : Graph) : Option ShadingNode :=
  match graph.outputs with
  | [] => none
  | first :: later =>
    if (first.attributeFlag? "is_active_output").getD true then some first
    -- Later outputs have to say that they are active; the first one counts if none does.
    else
      (later.find? fun node => (node.attributeFlag? "is_active_output").getD false).or (some first)

end Graph

end ShadingExport
