import ShadingExport.Proofs.Json.Faithful

/-!
# Snapshots are read back

Every part of a snapshot whose numbers are finite is read back from the JSON value that it writes:
the writer gives all fields under names that the reader knows, absent options are `null`, and the
shape of a literal tells which one it is. Readers yield finite numbers in turn, so that a document
that is read, written back and read again gives the same snapshot.

Only literals hold numbers that need not be finite; the parameters of nodes are free values in
canonical form and have no others.
-/

namespace ShadingExport

open Json (Faithful)

/-! ## Finite snapshots -/

instance : DecidablePred Literal.IsFinite := fun literal =>
  inferInstanceAs (Decidable (∀ number ∈ literal.numbers, number.isFinite))

/-- Every literal at an input is finite. -/
def Node.IsFinite (node : Node) : Prop :=
  ∀ entry ∈ node.inputs.entries, entry.2.IsFinite

/-- Every node is finite. -/
def NodeTree.IsFinite (tree : NodeTree) : Prop :=
  ∀ node ∈ tree.nodes, node.IsFinite

/-- The color and the node tree are finite. -/
structure HostMaterial.IsFinite (material : HostMaterial) : Prop where
  /-- The color is finite. -/
  diffuseColor : material.diffuseColor.IsFinite
  /-- The node tree, if there is one, is finite. -/
  nodeTree : ∀ tree ∈ material.nodeTree, tree.IsFinite

/-- The color and the node tree are finite. -/
structure World.IsFinite (world : World) : Prop where
  /-- The color is finite. -/
  color : world.color.IsFinite
  /-- The node tree, if there is one, is finite. -/
  nodeTree : ∀ tree ∈ world.nodeTree, tree.IsFinite

/-- Every material and the world are finite. -/
structure Scene.IsFinite (scene : Scene) : Prop where
  /-- Every material is finite. -/
  materials : ∀ material ∈ scene.materials, material.IsFinite
  /-- The world, if there is one, is finite. -/
  world : ∀ world ∈ scene.world, world.IsFinite

instance : DecidablePred Node.IsFinite := fun node =>
  inferInstanceAs (Decidable (∀ entry ∈ node.inputs.entries, entry.2.IsFinite))

instance : DecidablePred NodeTree.IsFinite := fun tree =>
  inferInstanceAs (Decidable (∀ node ∈ tree.nodes, node.IsFinite))

instance : DecidablePred HostMaterial.IsFinite := fun material =>
  decidable_of_iff (material.diffuseColor.IsFinite ∧ ∀ tree ∈ material.nodeTree, tree.IsFinite)
    ⟨fun h => ⟨h.1, h.2⟩, fun h => ⟨h.1, h.2⟩⟩

instance : DecidablePred World.IsFinite := fun world =>
  decidable_of_iff (world.color.IsFinite ∧ ∀ tree ∈ world.nodeTree, tree.IsFinite)
    ⟨fun h => ⟨h.1, h.2⟩, fun h => ⟨h.1, h.2⟩⟩

instance : DecidablePred Scene.IsFinite := fun scene =>
  decidable_of_iff ((∀ material ∈ scene.materials, material.IsFinite) ∧
      ∀ world ∈ scene.world, world.IsFinite)
    ⟨fun h => ⟨h.1, h.2⟩, fun h => ⟨h.1, h.2⟩⟩

/-! ## Literals and parameters -/

/-- The numbers of a list of finite values are finite. -/
theorem Json.isFinite_of_list?_float? {json : Json} (hjson : json.IsFinite) {numbers : List Float}
    (h : json.list? Json.float? = some numbers) : ∀ number ∈ numbers, number.isFinite := by
  cases hjson with
  | array hitems =>
    exact Json.forall_of_mapM_eq_some
      (fun item hitem _ hread => (hitems item hitem).isFinite_of_float? hread) h
  | null | bool | int | float | string | object | unreadable => cases h

/-- The numbers of a row of finite values are finite. -/
theorem Literal.isFinite_of_row? {json : Json} (hjson : json.IsFinite) {row : Row Float}
    (h : Literal.row? json = some row) : ∀ number ∈ row.entries, number.isFinite := by
  unfold Literal.row? at h
  split at h
  · next hnumbers =>
    cases h
    exact Json.isFinite_of_list?_float? hjson hnumbers
  · cases h

/-- A literal that is made of finite values is finite, whatever its shape. -/
theorem Literal.isFinite_of_ofJson? {json : Json} (hjson : json.IsFinite) {literal : Literal}
    (h : Literal.ofJson? json = some literal) : literal.IsFinite := by
  unfold Literal.ofJson? at h
  split at h
  · next hvalue =>
    cases h
    exact List.forall_mem_singleton.mpr (hjson.isFinite_of_float? hvalue)
  · split at h
    · next hnumbers =>
      have hfinite := Json.isFinite_of_list?_float? hjson hnumbers
      unfold Literal.ofNumbers? at h
      split at h <;> cases h <;> exact hfinite
    · obtain ⟨rows, hrows, hliteral⟩ := Option.bind_eq_some_iff.mp h
      have hfinite : ∀ row ∈ rows, ∀ number ∈ row.entries, number.isFinite := by
        cases hjson with
        | array hitems =>
          exact Json.forall_of_mapM_eq_some
            (fun item hitem _ hread => Literal.isFinite_of_row? (hitems item hitem) hread) hrows
        | null | bool | int | float | string | object | unreadable => cases hrows
      unfold Literal.ofRows? at hliteral
      split at hliteral
      · cases hliteral
        intro number hnumber
        obtain ⟨row, hrow, hentry⟩ := List.mem_flatMap.mp hnumber
        exact hfinite row hrow number hentry
      · cases hliteral

/-- Finite literals are read back. -/
theorem Literal.faithful : Faithful Literal.IsFinite Literal.toJson Literal.ofJson? :=
  ⟨fun _ => Literal.ofJson?_toJson, fun hjson h => Literal.isFinite_of_ofJson? hjson h⟩

/-- Parameters are read back. -/
theorem Parameter.faithful : Faithful (fun _ => True) Parameter.json Parameter.ofJson? :=
  .of_forall Parameter.ofJson?_json

/-! ## Parts without numbers -/

/-- Settings are read back. -/
theorem Settings.faithful : Faithful (fun _ => True) Settings.toJson Settings.ofJson? :=
  .of_forall Settings.ofJson?_toJson

/-- Images are read back. -/
theorem Image.faithful : Faithful (fun _ => True) Image.toJson Image.ofJson? :=
  .of_forall fun image => by
    simp [Image.ofJson?, Image.toJson, Json.Fields.of?, Json.Fields.required,
      Json.Fields.withDefault, List.lookup_cons]

/-- Ends of connections are read back. -/
theorem Endpoint.faithful : Faithful (fun _ => True) Endpoint.toJson Endpoint.ofJson? :=
  .of_forall fun endpoint => by
    simp [Endpoint.ofJson?, Endpoint.toJson, Json.Fields.of?, Json.Fields.required,
      List.lookup_cons]

/-- Connections are read back. -/
theorem Connection.faithful : Faithful (fun _ => True) Connection.toJson Connection.ofJson? :=
  .of_forall fun connection => by
    have hsource := Endpoint.faithful.decode_encode connection.source trivial
    have htarget := Endpoint.faithful.decode_encode connection.target trivial
    simp [Connection.ofJson?, Connection.toJson, Json.Fields.of?, Json.Fields.required,
      Json.Fields.withDefault, List.lookup_cons, hsource, htarget]

/-- Objects are read back. -/
theorem HostObject.faithful : Faithful (fun _ => True) HostObject.toJson HostObject.ofJson? :=
  .of_forall fun object => by
    have hmaterials := Faithful.string.list.decode_encode object.materials fun _ _ => trivial
    simp [HostObject.ofJson?, HostObject.toJson, Json.Fields.of?, Json.Fields.required,
      Json.Fields.withDefault, List.lookup_cons, hmaterials]

/-- Metadata is read back. -/
theorem Metadata.faithful : Faithful (fun _ => True) Metadata.toJson Metadata.ofJson? :=
  .of_forall fun metadata => by
    have hoption := Faithful.string.nullable fun _ => nofun
    have hcreated := hoption.decode_encode metadata.created fun _ _ => trivial
    have hmodified := hoption.decode_encode metadata.modified fun _ _ => trivial
    simp [Metadata.ofJson?, Metadata.toJson, Json.Fields.of?, Json.Fields.withDefault,
      List.lookup_cons, hcreated, hmodified]

/-! ## Node trees -/

/-- Finite nodes are read back. -/
theorem Node.faithful : Faithful Node.IsFinite Node.toJson Node.ofJson? where
  decode_encode node hnode := by
    have hinputs := Literal.faithful.table.decode_encode node.inputs hnode
    have hparams := Parameter.faithful.table.decode_encode node.params fun _ _ => trivial
    have himage := (Image.faithful.nullable fun _ => nofun).decode_encode node.image
      fun _ _ => trivial
    simp [Node.ofJson?, Node.toJson, Json.Fields.of?, Json.Fields.required,
      Json.Fields.withDefault, List.lookup_cons, hinputs, hparams, himage]
  holds hjson hnode := by
    simp only [Node.ofJson?, Option.bind_eq_bind, Option.bind_eq_some_iff, Option.pure_def] at hnode
    obtain ⟨fields, hfields, id, -, idname, -, inputs, hinputs, params, -, image, -, hsame⟩ := hnode
    cases hsame
    exact Json.Fields.holds_of_withDefault Literal.faithful.table
      (Json.Fields.isFinite_of_of? hjson hfields) (fun _ hnil => absurd hnil List.not_mem_nil)
      hinputs

/-- Finite node trees are read back. -/
theorem NodeTree.faithful : Faithful NodeTree.IsFinite NodeTree.toJson NodeTree.ofJson? where
  decode_encode tree htree := by
    have hnodes := Node.faithful.list.decode_encode tree.nodes htree
    have hconnections := Connection.faithful.list.decode_encode tree.connections
      fun _ _ => trivial
    simp [NodeTree.ofJson?, NodeTree.toJson, Json.Fields.of?, Json.Fields.withDefault,
      List.lookup_cons, hnodes, hconnections]
  holds hjson htree := by
    simp only [NodeTree.ofJson?, Option.bind_eq_bind, Option.bind_eq_some_iff,
      Option.pure_def] at htree
    obtain ⟨fields, hfields, nodes, hnodes, connections, -, hsame⟩ := htree
    cases hsame
    exact Json.Fields.holds_of_withDefault Node.faithful.list
      (Json.Fields.isFinite_of_of? hjson hfields) (fun _ hnil => absurd hnil List.not_mem_nil)
      hnodes

/-- Optional node trees are read back. -/
theorem NodeTree.faithful_nullable :
    Faithful (fun option => ∀ tree ∈ option, NodeTree.IsFinite tree)
      (Json.ofOption NodeTree.toJson) (Json.nullable? NodeTree.ofJson?) :=
  NodeTree.faithful.nullable fun _ => nofun

/-! ## Scenes -/

/-- Counts are read back. -/
theorem Json.count?_toNat (count : UInt32) : Json.count? (.int count.toNat) = some count := by
  have hsize : (count.toNat : Int) < UInt32.size := Int.ofNat_lt.mpr count.toNat_lt_size
  have hrange : (0 ≤ (count.toNat : Int) && (count.toNat : Int) < UInt32.size) = true := by
    rw [Bool.and_eq_true]
    exact ⟨decide_eq_true (Int.natCast_nonneg _), decide_eq_true hsize⟩
  rw [Json.count?, if_pos hrange, Int.toNat_natCast, UInt32.ofNat_toNat]

/-- Finite materials are read back. -/
theorem HostMaterial.faithful :
    Faithful HostMaterial.IsFinite HostMaterial.toJson HostMaterial.ofJson? where
  decode_encode material hmaterial := by
    have hcolor := Literal.faithful.decode_encode material.diffuseColor hmaterial.diffuseColor
    have htree := NodeTree.faithful_nullable.decode_encode material.nodeTree hmaterial.nodeTree
    -- The range check of a count is not to be evaluated.
    obtain ⟨users, hcount, husers⟩ : ∃ users, Json.int material.users.toNat = users ∧
        users.count? = some material.users :=
      ⟨_, rfl, Json.count?_toNat material.users⟩
    rw [HostMaterial.toJson, hcount]
    simp [HostMaterial.ofJson?, Json.Fields.of?, Json.Fields.required, Json.Fields.withDefault,
      List.lookup_cons, husers, hcolor, htree]
  holds hjson hmaterial := by
    simp only [HostMaterial.ofJson?, Option.bind_eq_bind, Option.bind_eq_some_iff,
      Option.pure_def] at hmaterial
    obtain ⟨fields, hfields, name, -, users, -, useNodes, -, color, hcolor, tree, htree, hsame⟩ :=
      hmaterial
    cases hsame
    have hfinite := Json.Fields.isFinite_of_of? hjson hfields
    exact {
      diffuseColor :=
        Json.Fields.holds_of_withDefault Literal.faithful hfinite (by decide +kernel) hcolor
      nodeTree := Json.Fields.holds_of_withDefault NodeTree.faithful_nullable hfinite
        (fun _ hnone => absurd hnone (Option.not_mem_none _)) htree }

/-- Finite worlds are read back. -/
theorem World.faithful : Faithful World.IsFinite World.toJson World.ofJson? where
  decode_encode world hworld := by
    have hcolor := Literal.faithful.decode_encode world.color hworld.color
    have htree := NodeTree.faithful_nullable.decode_encode world.nodeTree hworld.nodeTree
    simp [World.ofJson?, World.toJson, Json.Fields.of?, Json.Fields.withDefault,
      List.lookup_cons, hcolor, htree]
  holds hjson hworld := by
    simp only [World.ofJson?, Option.bind_eq_bind, Option.bind_eq_some_iff,
      Option.pure_def] at hworld
    obtain ⟨fields, hfields, useNodes, -, color, hcolor, tree, htree, hsame⟩ := hworld
    cases hsame
    have hfinite := Json.Fields.isFinite_of_of? hjson hfields
    exact {
      color :=
        Json.Fields.holds_of_withDefault Literal.faithful hfinite (by decide +kernel) hcolor
      nodeTree := Json.Fields.holds_of_withDefault NodeTree.faithful_nullable hfinite
        (fun _ hnone => absurd hnone (Option.not_mem_none _)) htree }

/-- Finite scenes are read back. -/
theorem Scene.faithful : Faithful Scene.IsFinite Scene.toJson Scene.ofJson? where
  decode_encode scene hscene := by
    have hmetadata := Metadata.faithful.decode_encode scene.metadata trivial
    have hsettings := (Settings.faithful.nullable fun _ => nofun).decode_encode scene.settings
      fun _ _ => trivial
    have hmaterials := HostMaterial.faithful.list.decode_encode scene.materials hscene.materials
    have hobjects := HostObject.faithful.list.decode_encode scene.objects fun _ _ => trivial
    have hworld := (World.faithful.nullable fun _ => nofun).decode_encode scene.world hscene.world
    simp [Scene.ofJson?, Scene.toJson, Json.Fields.of?, Json.Fields.withDefault,
      List.lookup_cons, hmetadata, hsettings, hmaterials, hobjects, hworld]
  holds hjson hscene := by
    simp only [Scene.ofJson?, Option.bind_eq_bind, Option.bind_eq_some_iff,
      Option.pure_def] at hscene
    obtain ⟨fields, hfields, version, -, metadata, -, settings, -, materials, hmaterials,
      objects, -, world, hworld, hsame⟩ := hscene
    cases hsame
    have hfinite := Json.Fields.isFinite_of_of? hjson hfields
    exact {
      materials := Json.Fields.holds_of_withDefault HostMaterial.faithful.list hfinite
        (fun _ hnil => absurd hnil List.not_mem_nil) hmaterials
      world := Json.Fields.holds_of_withDefault (World.faithful.nullable fun _ => nofun) hfinite
        (fun _ hnone => absurd hnone (Option.not_mem_none _)) hworld }

/-! ## Reading undoes writing -/

/-- Reading undoes writing for the values of a property, and for all that is read. -/
structure Json.UndoesWriting {α : Type} (P : α → Prop) (encode : α → Json)
    (decode : Json → Option α) : Prop where
  /-- A value is read back from what is written for it. -/
  value : ∀ value, P value → decode (encode value) = some value
  /-- What is read from a value with finite numbers is read back. -/
  json : ∀ json value, json.IsFinite → decode json = some value →
    decode (encode value) = some value
  /-- What is read from a document is read back. -/
  document : ∀ text value, Json.decodeText? decode text = some value →
    decode (encode value) = some value

/-- Faithful writers and readers undo each other. -/
theorem Json.Faithful.undoesWriting {α : Type} {P : α → Prop} {encode : α → Json}
    {decode : Json → Option α} (h : Faithful P encode decode) :
    Json.UndoesWriting P encode decode :=
  ⟨h.decode_encode, fun _ _ => h.of_decode, fun _ _ => h.of_decodeText?⟩

/-- **Every snapshot of finite numbers is read back from what it writes**, and so is every part of
one; a document that is read, written back and read again gives the same snapshot. -/
theorem Scene.reading_undoes_writing :
    Json.UndoesWriting Scene.IsFinite Scene.toJson Scene.ofJson? ∧
      Json.UndoesWriting (fun _ => True) Settings.toJson Settings.ofJson? ∧
      Json.UndoesWriting (fun _ => True) Metadata.toJson Metadata.ofJson? ∧
      Json.UndoesWriting HostMaterial.IsFinite HostMaterial.toJson HostMaterial.ofJson? ∧
      Json.UndoesWriting (fun _ => True) HostObject.toJson HostObject.ofJson? ∧
      Json.UndoesWriting World.IsFinite World.toJson World.ofJson? ∧
      Json.UndoesWriting NodeTree.IsFinite NodeTree.toJson NodeTree.ofJson? ∧
      Json.UndoesWriting Node.IsFinite Node.toJson Node.ofJson? ∧
      Json.UndoesWriting (fun _ => True) Image.toJson Image.ofJson? ∧
      Json.UndoesWriting (fun _ => True) Connection.toJson Connection.ofJson? ∧
      Json.UndoesWriting (fun _ => True) Endpoint.toJson Endpoint.ofJson? ∧
      Json.UndoesWriting Literal.IsFinite Literal.toJson Literal.ofJson? ∧
      Json.UndoesWriting (fun _ => True) Parameter.json Parameter.ofJson? :=
  ⟨Scene.faithful.undoesWriting, Settings.faithful.undoesWriting, Metadata.faithful.undoesWriting,
    HostMaterial.faithful.undoesWriting, HostObject.faithful.undoesWriting,
    World.faithful.undoesWriting, NodeTree.faithful.undoesWriting, Node.faithful.undoesWriting,
    Image.faithful.undoesWriting, Connection.faithful.undoesWriting,
    Endpoint.faithful.undoesWriting, Literal.faithful.undoesWriting,
    Parameter.faithful.undoesWriting⟩

/-- A scene with literals of all four shapes, a parameter and an image. -/
def Scene.lantern : Scene where
  settings := some { glossyMode := .phong }
  materials := [{
    name := "Paper"
    users := 2
    diffuseColor := .vec3 1.0 0.5 0.25
    nodeTree := some {
      nodes := [
        { id := "glow", idname := "ShaderNodeEmission",
          inputs := .ofList [("Strength", .scalar 2.0), ("Color", .vec4 1.0 0.5 0.25 1.0)],
          params := .ofList [("locations", ⟨.array [.int 3, .null], rfl⟩)] },
        { id := "turn", idname := "ShaderNodeMapping",
          inputs := .ofList [("Rotation",
            .matrix ⟨⟨0.0, 1.0, 0.0, 0.0⟩, ⟨0.0, 0.0, 1.0, 0.0⟩, ⟨1.0, 0.0, 0.0, 0.0⟩,
              ⟨0.0, 0.0, 0.0, 1.0⟩⟩)],
          image := some { name := "fibers" } }]
      connections := [{ source := ⟨"glow", "Emission"⟩, target := ⟨"turn", "Vector"⟩ }] } }]
  world := some { useNodes := false }

/-- The lantern is read back, and so is what the document of a version alone gives. -/
theorem Scene.reading_undoes_writing_lantern :
    Scene.lantern.IsFinite ∧ Scene.ofJson? Scene.lantern.toJson = some Scene.lantern ∧
      (let versioned : Scene := { version := "1.1" };
        Json.decodeText? Scene.ofJson? "[\"1.1\"]" = some versioned ∧
          Scene.ofJson? versioned.toJson = some versioned) := by
  have hlantern : Scene.lantern.IsFinite := by decide +kernel
  have hdocument : Json.decodeText? Scene.ofJson? "[\"1.1\"]" =
      some { version := "1.1" } := by rfl
  obtain ⟨hscene, -⟩ := reading_undoes_writing
  exact ⟨hlantern, hscene.value _ hlantern, hdocument, hscene.document _ _ hdocument⟩

end ShadingExport
