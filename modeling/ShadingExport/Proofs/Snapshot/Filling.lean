import ShadingExport.Proofs.Graph.WellFormed
import ShadingExport.Snapshot.NodeType
import Mathlib.Data.List.Forall2
import Mathlib.Data.Option.Basic

/-!
# Filling in host defaults

A filled scene says what the scene says, and beyond that only what its node types have as defaults.
At every key a filled node has its own value if it had one, else the default of its type, else
nothing (`Node.Completes`); all other parts of a scene stay. This describes the filled scene
completely (`Scene.completes_iff`). In particular there is nothing left to fill
(`Scene.fillDefaults_fillDefaults`). Whether a tree makes a graph depends on its ids and connections
alone, so a tree and its filled form have the same defect, if any (`NodeTree.defect?_fillDefaults`).
-/

namespace ShadingExport

/-! ## What the node types have as defaults -/

namespace NodeType

/-- The default value of an input, if there is a type of this name and it has one. -/
def defaultInput? (idname name : String) : Option Literal :=
  (find? idname).bind fun type => type.inputs.get? name

/-- The default value of an attribute, if there is a type of this name and it has one. -/
def defaultParam? (idname key : String) : Option Parameter :=
  (find? idname).bind fun type => type.params.get? key

end NodeType

/-! ## What filling may change -/

/-- A node completes another: it differs only in inputs and attributes, which have their value in
the other node, else the default of its type, else none. -/
structure Node.Completes (filled node : Node) : Prop where
  /-- The id stays. -/
  id_eq : filled.id = node.id
  /-- The type stays. -/
  idname_eq : filled.idname = node.idname
  /-- The image stays. -/
  image_eq : filled.image = node.image
  /-- An input has its own value, else the default. -/
  inputs_eq : ∀ name, filled.inputs.get? name =
    (node.inputs.get? name).or (NodeType.defaultInput? node.idname name)
  /-- An attribute has its own value, whatever its shape, else the default. -/
  params_eq : ∀ key, filled.params.get? key =
    (node.params.get? key).or (NodeType.defaultParam? node.idname key)
  /-- A node of another type stays as it is. -/
  eq_of_unknown : NodeType.find? node.idname = none → filled = node

/-- A tree completes another: its nodes do, in the same order, and the connections stay. -/
structure NodeTree.Completes (filled tree : NodeTree) : Prop where
  /-- The nodes are completed one by one. -/
  nodes : List.Forall₂ Node.Completes filled.nodes tree.nodes
  /-- The connections stay. -/
  connections_eq : filled.connections = tree.connections

/-- A material completes another: its tree does, and all else stays. -/
structure HostMaterial.Completes (filled material : HostMaterial) : Prop where
  /-- The name stays. -/
  name_eq : filled.name = material.name
  /-- The number of users stays. -/
  users_eq : filled.users = material.users
  /-- Whether the tree counts stays. -/
  useNodes_eq : filled.useNodes = material.useNodes
  /-- The color stays. -/
  diffuseColor_eq : filled.diffuseColor = material.diffuseColor
  /-- The tree is completed, if there is one. -/
  nodeTree : Option.Rel NodeTree.Completes filled.nodeTree material.nodeTree

/-- A world completes another: its tree does, and all else stays. -/
structure World.Completes (filled world : World) : Prop where
  /-- Whether the tree counts stays. -/
  useNodes_eq : filled.useNodes = world.useNodes
  /-- The color stays. -/
  color_eq : filled.color = world.color
  /-- The tree is completed, if there is one. -/
  nodeTree : Option.Rel NodeTree.Completes filled.nodeTree world.nodeTree

/-- A scene completes another: its materials and its world do, and all else stays. -/
structure Scene.Completes (filled scene : Scene) : Prop where
  /-- The version stays. -/
  version_eq : filled.version = scene.version
  /-- What the snapshot tells about itself stays. -/
  metadata_eq : filled.metadata = scene.metadata
  /-- The settings stay. -/
  settings_eq : filled.settings = scene.settings
  /-- The materials are completed one by one. -/
  materials : List.Forall₂ HostMaterial.Completes filled.materials scene.materials
  /-- The objects stay. -/
  objects_eq : filled.objects = scene.objects
  /-- The world is completed, if there is one. -/
  world : Option.Rel World.Completes filled.world scene.world

/-! ## Only the filled scene completes a scene -/

section Determined

variable {α β : Type} {Related : α → β → Prop} {image : β → α}
  (hdetermined : ∀ first second, Related first second ↔ first = image second)
include hdetermined

/-- If a relation determines the first side, lists that are related item by item are determined. -/
theorem forall₂_iff_eq_map {first : List α} {second : List β} :
    List.Forall₂ Related first second ↔ first = second.map image := by
  have hrelated : Related = fun first second => first = image second := by
    funext first second
    exact propext (hdetermined first second)
  rw [hrelated, ← List.forall₂_eq_eq_eq, List.forall₂_map_right_iff]

/-- If a relation determines the first side, so it does where both sides may be missing. -/
theorem optionRel_iff_eq_map {first : Option α} {second : Option β} :
    Option.Rel Related first second ↔ first = second.map image := by
  cases first with
  | none => cases second <;> simp
  | some first => cases second <;> simp [hdetermined]

end Determined

namespace Node

/-- The filled node completes a node. -/
theorem completes_fillDefaults (node : Node) : node.fillDefaults.Completes node := by
  unfold fillDefaults
  cases htype : NodeType.find? node.idname with
  | none =>
    -- Without a type there are no defaults.
    refine ⟨rfl, rfl, rfl, fun name => ?_, fun key => ?_, fun _ => rfl⟩
    · rw [NodeType.defaultInput?, htype, Option.bind_none, Option.or_none]
    · rw [NodeType.defaultParam?, htype, Option.bind_none, Option.or_none]
  | some type =>
    refine ⟨rfl, rfl, rfl, fun name => ?_, fun key => ?_, fun hunknown => ?_⟩
    · rw [NodeType.defaultInput?, htype]
      exact node.inputs.get?_fill type.inputs name
    · rw [NodeType.defaultParam?, htype]
      exact node.params.get?_fill type.params key
    · rw [htype] at hunknown
      cases hunknown

/-- **A node is completed in one way only.** -/
theorem completes_iff (filled node : Node) :
    filled.Completes node ↔ filled = node.fillDefaults := by
  constructor
  · intro h
    have hfill := node.completes_fillDefaults
    -- Tables that answer every look-up alike are equal.
    have hinputs : filled.inputs = node.fillDefaults.inputs :=
      Table.ext_get? fun name => (h.inputs_eq name).trans (hfill.inputs_eq name).symm
    have hparams : filled.params = node.fillDefaults.params :=
      Table.ext_get? fun key => (h.params_eq key).trans (hfill.params_eq key).symm
    have hid := h.id_eq.trans hfill.id_eq.symm
    have hidname := h.idname_eq.trans hfill.idname_eq.symm
    have himage := h.image_eq.trans hfill.image_eq.symm
    generalize node.fillDefaults = other at hinputs hparams hid hidname himage ⊢
    cases filled
    cases other
    exact mk.injEq .. ▸ ⟨hid, hidname, hinputs, hparams, himage⟩
  · rintro rfl
    exact node.completes_fillDefaults

/-- A filled node has nothing left to fill: it completes itself. -/
theorem fillDefaults_fillDefaults (node : Node) :
    node.fillDefaults.fillDefaults = node.fillDefaults := by
  have h := node.completes_fillDefaults
  symm
  rw [← completes_iff]
  refine ⟨rfl, rfl, rfl, fun name => ?_, fun key => ?_, fun _ => rfl⟩
  · rw [h.idname_eq, h.inputs_eq, Option.or_assoc, Option.or_self]
  · rw [h.idname_eq, h.params_eq, Option.or_assoc, Option.or_self]

end Node

namespace NodeTree

/-- A tree is completed in one way only. -/
theorem completes_iff (filled tree : NodeTree) :
    filled.Completes tree ↔ filled = tree.fillDefaults := by
  have hnodes : List.Forall₂ Node.Completes filled.nodes tree.nodes ↔
      filled.nodes = tree.nodes.map Node.fillDefaults :=
    forall₂_iff_eq_map Node.completes_iff
  constructor
  · rintro ⟨h, hconnections⟩
    obtain ⟨nodes, connections⟩ := filled
    exact mk.injEq .. ▸ ⟨hnodes.mp h, hconnections⟩
  · rintro rfl
    exact ⟨hnodes.mpr rfl, rfl⟩

theorem fillDefaults_fillDefaults (tree : NodeTree) :
    tree.fillDefaults.fillDefaults = tree.fillDefaults := by
  simp only [fillDefaults, List.map_map, Function.comp_def, Node.fillDefaults_fillDefaults]

end NodeTree

namespace HostMaterial

/-- A material is completed in one way only. -/
theorem completes_iff (filled material : HostMaterial) :
    filled.Completes material ↔ filled = material.fillDefaults := by
  have htree : Option.Rel NodeTree.Completes filled.nodeTree material.nodeTree ↔
      filled.nodeTree = material.nodeTree.map NodeTree.fillDefaults :=
    optionRel_iff_eq_map NodeTree.completes_iff
  constructor
  · rintro ⟨hname, husers, hcount, hcolor, h⟩
    rw [fillDefaults, ← htree.mp h, ← hname, ← husers, ← hcount, ← hcolor]
  · rintro rfl
    exact ⟨rfl, rfl, rfl, rfl, htree.mpr rfl⟩

theorem fillDefaults_fillDefaults (material : HostMaterial) :
    material.fillDefaults.fillDefaults = material.fillDefaults := by
  simp only [fillDefaults, Option.map_map, Function.comp_def, NodeTree.fillDefaults_fillDefaults]

end HostMaterial

namespace World

/-- A world is completed in one way only. -/
theorem completes_iff (filled world : World) :
    filled.Completes world ↔ filled = world.fillDefaults := by
  have htree : Option.Rel NodeTree.Completes filled.nodeTree world.nodeTree ↔
      filled.nodeTree = world.nodeTree.map NodeTree.fillDefaults :=
    optionRel_iff_eq_map NodeTree.completes_iff
  constructor
  · rintro ⟨hcount, hcolor, h⟩
    rw [fillDefaults, ← htree.mp h, ← hcount, ← hcolor]
  · rintro rfl
    exact ⟨rfl, rfl, htree.mpr rfl⟩

theorem fillDefaults_fillDefaults (world : World) :
    world.fillDefaults.fillDefaults = world.fillDefaults := by
  simp only [fillDefaults, Option.map_map, Function.comp_def, NodeTree.fillDefaults_fillDefaults]

end World

namespace Scene

/-- **A scene is completed in one way only.** -/
theorem completes_iff (filled scene : Scene) :
    filled.Completes scene ↔ filled = scene.fillDefaults := by
  have hmaterials : List.Forall₂ HostMaterial.Completes filled.materials scene.materials ↔
      filled.materials = scene.materials.map HostMaterial.fillDefaults :=
    forall₂_iff_eq_map HostMaterial.completes_iff
  have hworld : Option.Rel World.Completes filled.world scene.world ↔
      filled.world = scene.world.map World.fillDefaults :=
    optionRel_iff_eq_map World.completes_iff
  constructor
  · rintro ⟨hversion, hmetadata, hsettings, h, hobjects, h'⟩
    rw [fillDefaults, ← hmaterials.mp h, ← hworld.mp h', ← hversion, ← hmetadata, ← hsettings,
      ← hobjects]
  · rintro rfl
    exact ⟨rfl, rfl, rfl, hmaterials.mpr rfl, rfl, hworld.mpr rfl⟩

/-- A filled scene has nothing left to fill. -/
theorem fillDefaults_fillDefaults (scene : Scene) :
    scene.fillDefaults.fillDefaults = scene.fillDefaults := by
  simp only [fillDefaults, List.map_map, Option.map_map, Function.comp_def,
    HostMaterial.fillDefaults_fillDefaults, World.fillDefaults_fillDefaults]

end Scene

/-! ## The graph of a filled tree -/

namespace NodeTree

/-- Whether an id is repeated depends on the ids alone. -/
theorem repeatedId?_map_fillDefaults (seen : List String) (nodes : List Node) :
    repeatedId? seen (nodes.map Node.fillDefaults) = repeatedId? seen nodes := by
  induction nodes generalizing seen with
  | nil => rfl
  | cons node rest ih =>
    rw [List.map_cons, repeatedId?, repeatedId?, ih, node.completes_fillDefaults.id_eq]

theorem ids_fillDefaults (tree : NodeTree) : tree.fillDefaults.ids = tree.ids := by
  have hid : ∀ node : Node, node.fillDefaults.id = node.id :=
    fun node => node.completes_fillDefaults.id_eq
  simp only [ids, fillDefaults, List.map_map, Function.comp_def, hid]

/-- **Filling neither mends nor breaks a tree.** -/
theorem defect?_fillDefaults (tree : NodeTree) : tree.fillDefaults.defect? = tree.defect? := by
  have hconnections : tree.fillDefaults.connections = tree.connections := rfl
  have hrepeated : repeatedId? [] tree.fillDefaults.nodes = repeatedId? [] tree.nodes :=
    repeatedId?_map_fillDefaults [] tree.nodes
  rw [defect?, defect?, hrepeated, ids_fillDefaults, hconnections]

end NodeTree

/-- A tree and its filled form make a graph, or fail with the same error. -/
theorem Graph.ofTree_fillDefaults (tree : NodeTree) :
    Graph.ofTree tree.fillDefaults = (Graph.ofTree tree).map fun _ => tree.fillDefaults.graph := by
  unfold ofTree
  rw [NodeTree.defect?_fillDefaults]
  cases tree.defect? <;> rfl

/-- **Filling is a conservative closure.** The filled scene is the only one that has the materials,
objects, world and all other parts of the scene, with the nodes of its trees in their order, and
whose nodes differ from those of the scene only in that they have the defaults of their types at the
keys where these have nothing. There is nothing left to fill afterwards. And of a tree and its
filled form, both make a graph or both fail with the same error. -/
theorem Scene.fillDefaults_conservative (scene : Scene) :
    (∀ filled : Scene, filled.Completes scene ↔ filled = scene.fillDefaults) ∧
      scene.fillDefaults.fillDefaults = scene.fillDefaults ∧
      ∀ tree : NodeTree,
        ((∃ graph, Graph.ofTree tree.fillDefaults = .ok graph) ↔
          ∃ graph, Graph.ofTree tree = .ok graph) ∧
        ∀ error, Graph.ofTree tree.fillDefaults = .error error ↔
          Graph.ofTree tree = .error error := by
  refine ⟨fun filled => filled.completes_iff scene, scene.fillDefaults_fillDefaults,
    fun tree => ?_⟩
  rw [Graph.ofTree_fillDefaults]
  cases Graph.ofTree tree with
  | ok graph => exact ⟨iff_of_true ⟨_, rfl⟩ ⟨_, rfl⟩, fun _ => iff_of_false nofun nofun⟩
  | error failure => exact ⟨iff_of_false nofun nofun, fun _ => Iff.rfl⟩

/-- A glossy node keeps a distribution of the wrong shape, and gets both inputs that it lacks. -/
example : let node : Node :=
      { id := "gloss", idname := "ShaderNodeBsdfGlossy"
        params := .ofList [("distribution", ⟨.null, rfl⟩)] }
    (node.fillDefaults.params.get? "distribution").map (·.json.string?) = some none ∧
      node.fillDefaults.inputs.keys = ["Color", "Roughness"] := by
  constructor <;> decide +kernel

end ShadingExport
