import ShadingExport.Translation.World
import ShadingExport.Proofs.Graph.Sockets
import ShadingExport.Proofs.Translation.Success

/-!
# Which worlds show an environment map

A world shows an environment map if five nodes are linked up in the right way
(`World.ShowsEnvironment`): the output of its tree, a background or an emitter of literal strength,
an environment texture with an image and, if the texture is turned, a mapping with a literal
rotation of generated coordinates. Each step of the translation gives a value exactly for the part
of the chain that it looks at, and the whole gives an environment map exactly for the whole chain
(`World.background_eq_environment_iff`).
-/

namespace ShadingExport

open Translation

/-! ## The chain -/

/-- The rotation that a literal stands for: that of three angles, or the matrix itself. -/
inductive Literal.Rotates : Literal → Matrix Float → Prop where
  /-- Three angles stand for turns about the three axes. -/
  | angles (x y z : Float) : Rotates (.vec3 x y z) (.ofEulerAngles x y z)
  /-- A matrix stands for itself. -/
  | matrix (value : Matrix Float) : Rotates (.matrix value) value

namespace ShadingNode

/-- The input is not linked and holds the literal. -/
def Holds (node : ShadingNode) (name : String) (literal : Literal) : Prop :=
  ∃ socket, node.input? name = some socket ∧ socket.link = none ∧ socket.default = some literal

/-- The node lacks the input, or the input is not linked. -/
def Unlinked (node : ShadingNode) (name : String) : Prop :=
  ∀ socket, node.input? name = some socket → socket.link = none

end ShadingNode

namespace Graph

/-- The input of a node is linked to an output of a source. -/
def LinkedTo (graph : Graph) (node : ShadingNode) (name : String) (source : ShadingNode)
    (output : String) : Prop :=
  ∃ socket link, node.input? name = some socket ∧ socket.link = some link ∧
    graph.node? link.node = some source ∧ link.output = output

/-- How an environment texture is turned: not at all, or by a mapping of generated coordinates. -/
inductive Turns (graph : Graph) (texture : ShadingNode) : Option (Matrix Float) → Prop where
  /-- Nothing is linked to the coordinates of the texture. -/
  | upright (hvector : texture.Unlinked "Vector") : Turns graph texture none
  /-- A mapping of generated coordinates has a literal rotation. -/
  | rotated {mapping coordinates : ShadingNode} {output : String} {literal : Literal}
      {rotation : Matrix Float} (hvector : graph.LinkedTo texture "Vector" mapping output)
      (hmapping : mapping.kind = .mapping)
      (hcoordinates : graph.LinkedTo mapping "Vector" coordinates "Generated")
      (hsource : coordinates.kind = .textureCoordinate)
      (hliteral : mapping.Holds "Rotation" literal) (hrotation : literal.Rotates rotation) :
    Turns graph texture (some rotation)

/-- A node is an environment texture of an image, turned in some way. -/
structure IsEnvironment (graph : Graph) (texture : ShadingNode) (image : Image)
    (turn : Option (Matrix Float)) : Prop where
  /-- The node is an environment texture. -/
  kind : texture.kind = .environmentTexture
  /-- The texture has the image. -/
  image : texture.image = some image
  /-- The texture is turned in this way. -/
  turns : graph.Turns texture turn

/-- A node emits an environment map of an image with some strength, turned in some way. -/
structure EmitsEnvironment (graph : Graph) (node : ShadingNode) (image : Image) (strength : Float)
    (turn : Option (Matrix Float)) : Prop where
  /-- The node is a background or an emitter. -/
  kind : node.kind = .background ∨ node.kind = .emission
  /-- The strength is a number and not linked. -/
  holds : node.Holds "Strength" (.scalar strength)
  /-- The strength does not vanish. -/
  nonzero : (strength == 0) = false
  /-- The color is linked to an environment texture. -/
  color : ∃ texture output, graph.LinkedTo node "Color" texture output ∧
    graph.IsEnvironment texture image turn

end Graph

/-- The tree of a world counts, is well formed, and its output leads to an environment map. -/
def World.ShowsEnvironment (world : World) (image : Image) (strength : Float)
    (turn : Option (Matrix Float)) : Prop :=
  ∃ tree, world.activeTree? = some tree ∧ tree.WellFormed ∧
    ∃ output surface socket, tree.graph.output? = some output ∧
      tree.graph.LinkedTo output "Surface" surface socket ∧
      tree.graph.EmitsEnvironment surface image strength turn

/-! ## Links and literals -/

theorem Literal.rotation?_eq_some_iff {literal : Literal} {rotation : Matrix Float} :
    literal.rotation? = some rotation ↔ literal.Rotates rotation := by
  constructor
  · intro h
    cases literal with
    | vec3 x y z =>
      cases h
      exact .angles x y z
    | matrix value =>
      cases h
      exact .matrix _
    | scalar | vec4 => cases h
  · intro h
    cases h <;> rfl

namespace Graph

variable {graph : Graph} {node source : ShadingNode} {name : String}

/-- What feeds an input is what the input is linked to. -/
theorem feeding?_eq_some_iff :
    graph.feeding? node name = some source ↔ ∃ output, graph.LinkedTo node name source output := by
  constructor
  · intro h
    obtain ⟨socket, hsocket, hupstream⟩ := Option.bind_eq_some_iff.mp h
    obtain ⟨link, hlink, hsource⟩ := Option.bind_eq_some_iff.mp hupstream
    exact ⟨link.output, socket, link, hsocket, hlink, hsource, rfl⟩
  · rintro ⟨output, socket, link, hsocket, hlink, hsource, -⟩
    rw [feeding?, hsocket, Option.bind_some, upstream?, hlink, Option.bind_some, hsource]

/-- Where links resolve, nothing feeds an input exactly if it is not linked. -/
theorem feeding?_eq_none_iff (hlinks : graph.LinksResolve) (hnode : node ∈ graph.nodes) :
    graph.feeding? node name = none ↔ node.Unlinked name := by
  rw [feeding?, Option.bind_eq_none_iff]
  exact forall_congr' fun socket => forall_congr' fun hsocket =>
    upstream?_eq_none_iff hlinks hnode hsocket

end Graph

/-! ## The steps of the translation -/

/-- A sequence gives a result if its first step gives a value on which the rest gives the result. -/
theorem Translation.outcome_bind_eq_ok {α β : Type} {first : Translation α}
    {next : α → Translation β} {result : β} :
    (first >>= next).outcome = .ok result ↔
      ∃ value, first.outcome = .ok value ∧ (next value).outcome = .ok result := by
  cases hfirst : first.outcome with
  | error error =>
    rw [outcome_bind_error next hfirst]
    constructor
    · rintro ⟨⟩
    · rintro ⟨_, ⟨⟩, -⟩
  | ok value =>
    rw [outcome_bind_ok next hfirst]
    constructor
    · intro h
      exact ⟨value, rfl, h⟩
    · rintro ⟨_, ⟨⟩, h⟩
      exact h

/-- A computation that may fail gives a result if its first step gives a value on which the rest
gives the result. -/
theorem except_bind_eq_ok {ε α β : Type} {first : Except ε α} {next : α → Except ε β} {result : β} :
    (first >>= next) = .ok result ↔ ∃ value, first = .ok value ∧ next value = .ok result := by
  cases first with
  | error error =>
    constructor
    · rintro ⟨⟩
    · rintro ⟨_, ⟨⟩, -⟩
  | ok value =>
    constructor
    · intro h
      exact ⟨value, rfl, h⟩
    · rintro ⟨_, ⟨⟩, h⟩
      exact h

theorem Socket.getLiteral_eq_ok {socket : Socket} {literal : Literal} :
    socket.getLiteral = .ok literal ↔ socket.default = some literal := by
  unfold getLiteral
  cases socket.default <;> simp

namespace ShadingNode

/-- The rotation of a mapping is that of a literal. -/
theorem rotation_eq_ok {mapping : ShadingNode} {rotation : Matrix Float} :
    mapping.rotation = .ok rotation ↔
      ∃ literal, mapping.Holds "Rotation" literal ∧ literal.Rotates rotation := by
  unfold ShadingNode.rotation ShadingNode.Holds
  rw [except_bind_eq_ok]
  simp only [getInput_eq_ok]
  constructor
  · rintro ⟨socket, hsocket, h⟩
    split at h
    · cases h
    · next hunlinked =>
      obtain ⟨literal, hliteral, h⟩ := except_bind_eq_ok.mp h
      split at h
      · next hrotation =>
        cases h
        exact ⟨literal, ⟨socket, hsocket, Option.not_isSome_iff_eq_none.mp hunlinked,
          Socket.getLiteral_eq_ok.mp hliteral⟩, Literal.rotation?_eq_some_iff.mp hrotation⟩
      · cases h
  · rintro ⟨literal, ⟨socket, hsocket, hunlinked, hliteral⟩, hrotation⟩
    refine ⟨socket, hsocket, ?_⟩
    rw [Socket.isLinked, hunlinked, if_neg (by simp), except_bind_eq_ok]
    refine ⟨literal, Socket.getLiteral_eq_ok.mpr hliteral, ?_⟩
    rw [Literal.rotation?_eq_some_iff.mpr hrotation]

end ShadingNode

namespace Graph

variable {graph : Graph}

/-- The coordinates of a mapping are accepted if they are generated ones. -/
theorem checkCoordinates_eq_ok {mapping : ShadingNode} :
    graph.checkCoordinates mapping = .ok () ↔
      ∃ coordinates, graph.LinkedTo mapping "Vector" coordinates "Generated" ∧
        coordinates.kind = .textureCoordinate := by
  unfold checkCoordinates
  constructor
  · intro h
    split at h
    · cases h
    · next link hlink =>
      obtain ⟨socket, hsocket, hlink⟩ := Option.bind_eq_some_iff.mp hlink
      split at h
      · cases h
      · next source hsource =>
        split at h
        · cases h
        · next hkind =>
          split at h
          · cases h
          · next houtput =>
            exact ⟨source, ⟨socket, link, hsocket, hlink, hsource, not_not.mp houtput⟩,
              not_not.mp hkind⟩
  · rintro ⟨coordinates, ⟨socket, link, hsocket, hlink, hsource, houtput⟩, hkind⟩
    rw [hsocket, Option.bind_some, hlink]
    dsimp only
    rw [hsource]
    dsimp only
    rw [if_neg (not_not_intro hkind), if_neg (not_not_intro houtput)]

/-- The rotation of a texture is that of a mapping of generated coordinates. -/
theorem coordinateRotation_eq_ok {mapping : ShadingNode} {rotation : Matrix Float} :
    graph.coordinateRotation mapping = .ok rotation ↔
      mapping.kind = .mapping ∧
        (∃ coordinates, graph.LinkedTo mapping "Vector" coordinates "Generated" ∧
          coordinates.kind = .textureCoordinate) ∧
        ∃ literal, mapping.Holds "Rotation" literal ∧ literal.Rotates rotation := by
  unfold coordinateRotation
  by_cases hkind : mapping.kind = .mapping
  · rw [if_neg (not_not_intro hkind), except_bind_eq_ok, ← checkCoordinates_eq_ok,
      ← ShadingNode.rotation_eq_ok]
    constructor
    · rintro ⟨⟨⟩, hcoordinates, hrotation⟩
      exact ⟨hkind, hcoordinates, hrotation⟩
    · rintro ⟨-, hcoordinates, hrotation⟩
      exact ⟨(), hcoordinates, hrotation⟩
  · rw [if_pos hkind]
    refine iff_of_false ?_ fun h => hkind h.1
    rintro ⟨⟩

variable (hlinks : graph.LinksResolve)
include hlinks

/-- **An environment texture gives an environment map** exactly if it has an image and is turned in
a way that can be expressed. -/
theorem envmap_eq_ok {texture : ShadingNode} (htexture : texture ∈ graph.nodes) {scale : Float}
    {background : Background Image} :
    (graph.envmap texture scale).outcome = .ok background ↔
      ∃ image turn, texture.image = some image ∧ graph.Turns texture turn ∧
        background = .environment ⟨image, scale, turn⟩ := by
  unfold envmap
  simp only [liftM_except, outcome_bind_eq_ok, outcome_ofExcept, ShadingNode.getImage_eq_ok,
    outcome_emit]
  constructor
  · rintro ⟨image, himage, -, -, h⟩
    split at h
    · next hvector =>
      cases h
      exact ⟨image, none, himage, .upright ((feeding?_eq_none_iff hlinks htexture).mp hvector), rfl⟩
    · next mapping hvector =>
      obtain ⟨rotation, hrotation, h⟩ := outcome_bind_eq_ok.mp h
      cases h
      obtain ⟨output, hvector⟩ := feeding?_eq_some_iff.mp hvector
      obtain ⟨hkind, ⟨coordinates, hcoordinates, hsource⟩, literal, hliteral, hrotates⟩ :=
        coordinateRotation_eq_ok.mp hrotation
      exact ⟨image, some rotation, himage,
        .rotated hvector hkind hcoordinates hsource hliteral hrotates, rfl⟩
  · rintro ⟨image, turn, himage, hturn, rfl⟩
    refine ⟨image, himage, (), trivial, ?_⟩
    cases hturn with
    | upright hvector =>
      rw [(feeding?_eq_none_iff hlinks htexture).mpr hvector]
      rfl
    | rotated hvector hmapping hcoordinates hsource hliteral hrotation =>
      rw [feeding?_eq_some_iff.mpr ⟨_, hvector⟩]
      exact outcome_bind_eq_ok.mpr ⟨_, coordinateRotation_eq_ok.mpr
        ⟨hmapping, ⟨_, hcoordinates, hsource⟩, _, hliteral, hrotation⟩, rfl⟩

omit hlinks in
/-- A constant radiance gives no environment map. -/
theorem constantRadiance_ne_environment (base : Color) (strength : Float) (map : Envmap Image) :
    (constantRadiance base strength).outcome ≠ .ok (.environment map) := by
  unfold constantRadiance
  dsimp only
  split
  · rintro ⟨⟩
  · rintro ⟨⟩

/-- The color of an emitter gives an environment map exactly if it is linked to an environment
texture. -/
theorem emittedBackground_eq_environment {node : ShadingNode} {strength : Float}
    {map : Envmap Image} :
    (graph.emittedBackground node strength).outcome = .ok (.environment map) ↔
      map.scale = strength ∧ ∃ texture output, graph.LinkedTo node "Color" texture output ∧
        graph.IsEnvironment texture map.file map.transform := by
  unfold emittedBackground
  simp only [liftM_except, outcome_bind_eq_ok, outcome_ofExcept, ShadingNode.getInput_eq_ok]
  constructor
  · rintro ⟨socket, hsocket, h⟩
    split at h
    · obtain ⟨color, -, h⟩ := outcome_bind_eq_ok.mp h
      exact absurd h (constantRadiance_ne_environment _ _ _)
    · next texture hupstream =>
      split at h
      · next hkind =>
        obtain ⟨image, turn, himage, hturn, h⟩ :=
          (envmap_eq_ok hlinks (mem_nodes_of_upstream? hupstream)).mp h
        cases h
        have hfeeding : graph.feeding? node "Color" = some texture := by
          rw [feeding?, hsocket, Option.bind_some, hupstream]
        obtain ⟨output, hlinked⟩ := feeding?_eq_some_iff.mp hfeeding
        exact ⟨rfl, texture, output, hlinked, hkind, himage, hturn⟩
      · obtain ⟨color, -, h⟩ := outcome_bind_eq_ok.mp h
        exact absurd h (constantRadiance_ne_environment _ _ _)
      · cases h
  · rintro ⟨rfl, texture, output, hlinked, hkind, himage, hturn⟩
    have hfeeding := feeding?_eq_some_iff.mpr ⟨output, hlinked⟩
    obtain ⟨socket, hsocket, hupstream⟩ := Option.bind_eq_some_iff.mp hfeeding
    refine ⟨socket, hsocket, ?_⟩
    rw [hupstream]
    dsimp only
    rw [hkind]
    exact (envmap_eq_ok hlinks (mem_nodes_of_feeding? hfeeding)).mpr
      ⟨map.file, map.transform, himage, hturn, rfl⟩

/-- **The surface of a world gives an environment map** exactly if it emits one. -/
theorem surfaceBackground_eq_environment {node : ShadingNode} {map : Envmap Image} :
    (graph.surfaceBackground node).outcome = .ok (.environment map) ↔
      graph.EmitsEnvironment node map.file map.scale map.transform := by
  unfold surfaceBackground
  simp only [liftM_except, outcome_bind_eq_ok, outcome_ofExcept, ShadingNode.getInput_eq_ok]
  constructor
  · rintro ⟨socket, hsocket, h⟩
    split at h
    · cases h
    · next hunlinked =>
      obtain ⟨strength, hstrength, h⟩ := outcome_bind_eq_ok.mp h
      split at h
      · cases h
      · next hnonzero =>
        split at h
        · next hkind =>
          obtain ⟨rfl, hcolor⟩ := (emittedBackground_eq_environment hlinks).mp h
          exact {
            kind := by simpa using hkind
            holds := ⟨socket, hsocket, Option.not_isSome_iff_eq_none.mp hunlinked,
              Socket.getNumber_eq_ok.mp hstrength⟩
            nonzero := eq_false_of_ne_true hnonzero
            color := hcolor }
        · cases h
  · intro h
    obtain ⟨socket, hsocket, hunlinked, hdefault⟩ := h.holds
    refine ⟨socket, hsocket, ?_⟩
    rw [Socket.isLinked, hunlinked, if_neg (by simp)]
    refine outcome_bind_eq_ok.mpr ⟨map.scale, Socket.getNumber_eq_ok.mpr hdefault, ?_⟩
    rw [if_neg (by rw [h.nonzero]; exact Bool.false_ne_true), if_pos (by simpa using h.kind)]
    exact (emittedBackground_eq_environment hlinks).mpr ⟨rfl, h.color⟩

/-- The graph of a world gives an environment map exactly if its output leads to one. -/
theorem background_eq_environment {map : Envmap Image} :
    graph.background.outcome = .ok (.environment map) ↔
      ∃ output surface socket, graph.output? = some output ∧
        graph.LinkedTo output "Surface" surface socket ∧
        graph.EmitsEnvironment surface map.file map.scale map.transform := by
  unfold background
  constructor
  · intro h
    split at h
    · obtain ⟨-, -, h⟩ := outcome_bind_eq_ok.mp h
      cases h
    · next output houtput =>
      split at h
      · cases h
      · next surface hsurface =>
        obtain ⟨socket, hlinked⟩ := feeding?_eq_some_iff.mp hsurface
        exact ⟨output, surface, socket, houtput, hlinked,
          (surfaceBackground_eq_environment hlinks).mp h⟩
  · rintro ⟨output, surface, socket, houtput, hlinked, hemits⟩
    have hsurface := feeding?_eq_some_iff.mpr ⟨socket, hlinked⟩
    rw [houtput]
    dsimp only
    rw [hsurface]
    exact (surfaceBackground_eq_environment hlinks).mpr hemits

end Graph

/-- **A world gives an environment map exactly if it shows one.** -/
theorem World.background_eq_environment_iff {world : World} {map : Envmap Image} :
    world.background.outcome = .ok (.environment map) ↔
      world.ShowsEnvironment map.file map.scale map.transform := by
  unfold World.background World.ShowsEnvironment
  cases htree : world.activeTree? with
  | none =>
    dsimp only
    refine iff_of_false ?_ ?_
    · split
      · rintro ⟨⟩
      · rintro ⟨⟩
    · rintro ⟨tree, ⟨⟩, -⟩
  | some tree =>
    simp only [liftM_except, outcome_bind_eq_ok, outcome_ofExcept, Option.some.injEq,
      exists_eq_left']
    constructor
    · rintro ⟨graph, hgraph, h⟩
      obtain ⟨hwellFormed, rfl⟩ := Graph.ofTree_eq_ok_iff.mp hgraph
      exact ⟨hwellFormed,
        (Graph.background_eq_environment (Graph.linksResolve_of_ofTree hgraph)).mp h⟩
    · rintro ⟨hwellFormed, h⟩
      have hgraph : Graph.ofTree tree = .ok tree.graph :=
        Graph.ofTree_eq_ok_iff.mpr ⟨hwellFormed, rfl⟩
      exact ⟨tree.graph, hgraph,
        (Graph.background_eq_environment (Graph.linksResolve_of_ofTree hgraph)).mpr h⟩

end ShadingExport
