import ShadingExport.Proofs.DistinctKeys
import ShadingExport.Proofs.Snapshot.RoundTrip
import ShadingExport.Snapshot.NodeScheme

/-!
# Filling in defaults from the bundled scheme

A scheme of finite numbers is read back from its document (`NodeScheme.faithful`). The bundled one
is such a scheme, and completes every node as `Node.fillDefaults` does, so that a snapshot can be
completed from the list of node types without reading a document
(`NodeScheme.fillDefaults_bundled`).
-/

namespace ShadingExport

open Json (Faithful)

/-! ## Schemes are read back -/

/-- Every default of an input is finite. -/
def NodeDefaults.IsFinite (defaults : NodeDefaults) : Prop :=
  ∀ entry ∈ defaults.inputs.entries, entry.2.IsFinite

/-- The defaults of every type are finite. -/
def NodeScheme.IsFinite (scheme : NodeScheme) : Prop :=
  ∀ entry ∈ scheme.types.entries, entry.2.IsFinite

instance : DecidablePred NodeDefaults.IsFinite := fun defaults =>
  inferInstanceAs (Decidable (∀ entry ∈ defaults.inputs.entries, entry.2.IsFinite))

instance : DecidablePred NodeScheme.IsFinite := fun scheme =>
  inferInstanceAs (Decidable (∀ entry ∈ scheme.types.entries, entry.2.IsFinite))

/-- Finite defaults are read back. -/
theorem NodeDefaults.faithful :
    Faithful NodeDefaults.IsFinite NodeDefaults.toJson NodeDefaults.ofJson? where
  decode_encode defaults hdefaults := by
    have hcategory := (Faithful.string.nullable fun _ => nofun).decode_encode defaults.category
      fun _ _ => trivial
    have hinputs := Literal.faithful.table.decode_encode defaults.inputs hdefaults
    have hparams := Parameter.faithful.table.decode_encode defaults.params fun _ _ => trivial
    simp [NodeDefaults.ofJson?, NodeDefaults.toJson, Json.Fields.of?, Json.Fields.withDefault,
      List.lookup_cons, hcategory, hinputs, hparams]
  holds hjson hdefaults := by
    simp only [NodeDefaults.ofJson?, Option.bind_eq_bind, Option.bind_eq_some_iff,
      Option.pure_def] at hdefaults
    obtain ⟨fields, hfields, category, -, inputs, hinputs, params, -, hsame⟩ := hdefaults
    cases hsame
    exact Json.Fields.holds_of_withDefault Literal.faithful.table
      (Json.Fields.isFinite_of_of? hjson hfields) (fun _ hnil => absurd hnil List.not_mem_nil)
      hinputs

/-- Finite schemes are read back. -/
theorem NodeScheme.faithful :
    Faithful NodeScheme.IsFinite NodeScheme.toJson NodeScheme.ofJson? where
  decode_encode scheme hscheme := by
    have htypes := NodeDefaults.faithful.table.decode_encode scheme.types hscheme
    simp [NodeScheme.ofJson?, NodeScheme.toJson, Json.Fields.of?, Json.Fields.required,
      List.lookup_cons, htypes]
  holds hjson hscheme := by
    simp only [NodeScheme.ofJson?, Option.bind_eq_bind, Option.bind_eq_some_iff,
      Option.pure_def] at hscheme
    obtain ⟨fields, hfields, version, -, types, htypes, hsame⟩ := hscheme
    cases hsame
    obtain ⟨json, hlookup, hread⟩ := Option.bind_eq_some_iff.mp htypes
    exact NodeDefaults.faithful.table.holds
      ((Json.Fields.isFinite_of_of? hjson hfields).isFinite_of_lookup hlookup) hread

/-! ## The bundled scheme -/

namespace NodeScheme

/-- The bundled scheme has what the list of node types has. -/
theorem get?_types_bundled (idname : String) :
    bundled.types.get? idname = (NodeType.find? idname).map NodeType.defaults := by
  have hdistinct : (NodeType.all.map NodeType.idname).Nodup := by decide
  have hkeys : ((NodeType.all.map fun type => (type.idname, type.defaults)).map Prod.fst).Nodup := by
    rwa [List.map_map]
  ext defaults
  rw [bundled, Table.get?_ofList_eq_some_iff hkeys, List.mem_map, Option.map_eq_some_iff]
  constructor
  · rintro ⟨type, htype, heq⟩
    obtain ⟨rfl, hdefaults⟩ := Prod.mk.inj heq
    exact ⟨type, find?_eq_some_of_nodup_map hdistinct htype, hdefaults⟩
  · rintro ⟨type, hfound, hdefaults⟩
    have htype : type ∈ NodeType.all := List.mem_of_find?_eq_some hfound
    exact ⟨type, htype, Prod.ext (NodeType.idname_of_find? hfound) hdefaults⟩

/-- **A snapshot can be completed from the document of the bundled scheme**: the document is read,
and what it has for the type of a node completes the node as the list of node types does. -/
theorem fillDefaults_bundled (node : Node) :
    (ofJson? bundled.toJson).map (·.fillDefaults node) = some node.fillDefaults := by
  have hfinite : bundled.IsFinite := by decide +kernel
  rw [faithful.decode_encode bundled hfinite, Option.map_some, fillDefaults, get?_types_bundled]
  unfold Node.fillDefaults
  cases NodeType.find? node.idname with
  | none => rfl
  | some type => rfl

end NodeScheme

end ShadingExport
