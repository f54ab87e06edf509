import ShadingExport.Proofs.Graph.Mixing
import ShadingExport.Proofs.Session.Rendering
import ShadingExport.Proofs.Surface.Validity
import ShadingExport.Proofs.Translation.Following

/-!
# The glossy modes agree

The glossy mode decides what becomes of glossy nodes and nothing else. Two modes whose treatment of
one glossy node agrees therefore agree on whole surfaces, events and failures included, and the
records differ at the glossy nodes alone (`Graph.surface_follows`). The modes with an exponent
differ by a factor in the exponent, the modes with a roughness in the distribution, and where the
former succeed the latter do the same. Where no glossy node is met the mode does not matter
(`Graph.surface_eq_of_not_meetsGlossy`).
-/

namespace ShadingExport

open Translation

variable {τ σ : Type}

/-! ## Records that differ at glossy nodes -/

/-- A Blinn-Phong material becomes a Phong material with a quarter of its exponent, and a smooth
metal stays. -/
inductive Material.Quartered : Material τ (MaterialRecord τ) → Material τ (MaterialRecord τ) → Prop
  where
  /-- The exponent is divided by four. -/
  | exponent (exponent : Float) (distribution : Microfacet) (albedo : VaryingColor τ) :
    Quartered (.blinnPhong exponent distribution albedo) (.phong (exponent / 4) distribution albedo)
  /-- What has no exponent stays. -/
  | smooth (albedo : VaryingColor τ) :
    Quartered (.metal (.constant 0) albedo) (.metal (.constant 0) albedo)

/-- A conductor becomes a metal of the same roughness and color, or of roughness zero if it is
smooth. -/
inductive Material.Metallic : Material τ (MaterialRecord τ) → Material τ (MaterialRecord τ) → Prop
  where
  /-- The distribution is dropped. -/
  | rough (roughness : VaryingScalar τ) (distribution : Microfacet) (color : VaryingColor τ) :
    Metallic (.roughConductor roughness distribution color) (.metal roughness color)
  /-- A smooth conductor has no roughness. -/
  | smooth (color : VaryingColor τ) : Metallic (.conductor color) (.metal (.constant 0) color)

/-- The record with every Blinn-Phong material in it replaced by a Phong material with a quarter of
its exponent. -/
def MaterialRecord.quartered : MaterialRecord τ → MaterialRecord τ
  | ⟨name, .blinnPhong exponent distribution albedo⟩ =>
    ⟨name, .phong (exponent / 4) distribution albedo⟩
  | ⟨name, .blend amount first second⟩ => ⟨name, .blend amount first.quartered second.quartered⟩
  | ⟨name, .normalMap normals strength inner⟩ => ⟨name, .normalMap normals strength inner.quartered⟩
  | record => record

namespace MaterialRecord

variable {mode : GlossyMode} {record : MaterialRecord τ} {name : Option String}

/-- What a valid record is made of is valid. -/
theorem Valid.parts (h : record.Valid mode name) :
    ∀ part ∈ record.material.parts, part.Valid mode none := by
  obtain ⟨recordName, material⟩ := record
  have hnested : ∀ part ∈ material.parts, part :: part.nested ⊆
      (⟨recordName, material⟩ : MaterialRecord τ).nested := by
    intro part hpart inner hinner
    rw [nested_eq_flatMap]
    exact List.mem_flatMap.mpr ⟨part, hpart, hinner⟩
  intro part hpart
  constructor
  · exact h.unnamed part (hnested part hpart List.mem_cons_self)
  · intro inner hinner
    exact h.unnamed inner (hnested part hpart (List.mem_cons_of_mem _ hinner))
  · intro layer hlayer
    exact h.sound layer (List.mem_cons_of_mem _ (hnested part hpart hlayer))

/-- A record that is valid in metal mode has no exponents to be replaced. -/
theorem quartered_eq_self (h : record.Valid .metal name) : record.quartered = record := by
  fun_induction quartered record generalizing name with
  | case1 => cases (h.sound _ List.mem_cons_self).1
  | case2 recordName amount first second ihfirst ihsecond =>
    rw [ihfirst (h.parts first List.mem_cons_self),
      ihsecond (h.parts second (List.mem_cons_of_mem _ List.mem_cons_self))]
  | case3 recordName normals strength inner ih => rw [ih (h.parts inner List.mem_cons_self)]
  | case4 => rfl

end MaterialRecord

namespace Material

variable {material material' : Material τ (MaterialRecord τ)}

/-- Renaming files keeps a factor between exponents. -/
theorem Quartered.map (h : Quartered material material') (rename : τ → σ) (name : Option String) :
    Quartered ((⟨name, material⟩ : MaterialRecord τ).map rename).material
      ((⟨name, material'⟩ : MaterialRecord τ).map rename).material := by
  cases h with
  | exponent exponent distribution albedo => exact .exponent exponent distribution _
  | smooth albedo => exact .smooth _

/-- Renaming files keeps what conductors and metals share. -/
theorem Metallic.map (h : Metallic material material') (rename : τ → σ) (name : Option String) :
    Metallic ((⟨name, material⟩ : MaterialRecord τ).map rename).material
      ((⟨name, material'⟩ : MaterialRecord τ).map rename).material := by
  cases h with
  | rough roughness distribution color => exact .rough _ distribution _
  | smooth color => exact .smooth _

end Material

namespace Graph

variable {graph : Graph} {node : ShadingNode} {mode mode' : GlossyMode} {failures : Prop}

/-- Two records of a node differ at glossy nodes alone, where their materials are related. -/
inductive DifferAtGlossy (graph : Graph)
    (related : Material τ (MaterialRecord τ) → Material τ (MaterialRecord τ) → Prop) :
    ShadingNode → MaterialRecord τ → MaterialRecord τ → Prop where
  /-- The records of another node are the same, and valid in every mode. -/
  | same {node : ShadingNode} (hkind : node.kind ≠ .glossy) {name : Option String}
    {record : MaterialRecord τ} (hvalid : ∀ mode, record.Valid mode name) :
    DifferAtGlossy graph related node record record
  /-- The materials of a glossy node are related. -/
  | glossy {node : ShadingNode} (hkind : node.kind = .glossy) (name : Option String)
    {material material' : Material τ (MaterialRecord τ)} (h : related material material') :
    DifferAtGlossy graph related node ⟨name, material⟩ ⟨name, material'⟩
  /-- The sides of a mixture may differ. -/
  | mix {node first second : ShadingNode} (hkind : node.kind = .mix)
    (hfirst : graph.feeding? node "Shader" = some first)
    (hsecond : graph.feeding? node "Shader_001" = some second) (name : Option String)
    (amount : VaryingScalar τ) {a a' b b' : MaterialRecord τ}
    (ha : DifferAtGlossy graph related first a a')
    (hb : DifferAtGlossy graph related second b b') :
    DifferAtGlossy graph related node ⟨name, .blend amount a b⟩ ⟨name, .blend amount a' b'⟩
  /-- Perturbed normals are the same. -/
  | perturbed {node : ShadingNode} (name : Option String) (normals : VaryingColor τ)
    (strength : Option Float) {base base' : MaterialRecord τ}
    (h : DifferAtGlossy graph related node base base') :
    DifferAtGlossy graph related node ⟨name, .normalMap normals strength base⟩
      ⟨name, .normalMap normals strength base'⟩

namespace DifferAtGlossy

variable {related : Material τ (MaterialRecord τ) → Material τ (MaterialRecord τ) → Prop}
  {record record' : MaterialRecord τ}

/-- Renaming files keeps where records differ. -/
theorem map {related' : Material σ (MaterialRecord σ) → Material σ (MaterialRecord σ) → Prop}
    {rename : τ → σ}
    (hrelated : ∀ {material material'}, related material material' → ∀ name,
      related' ((⟨name, material⟩ : MaterialRecord τ).map rename).material
        ((⟨name, material'⟩ : MaterialRecord τ).map rename).material)
    (h : graph.DifferAtGlossy related node record record') :
    graph.DifferAtGlossy related' node (record.map rename) (record'.map rename) := by
  induction h with
  | same hkind hvalid => exact .same hkind fun mode => (hvalid mode).map rename
  | @glossy node hkind name material material' h =>
    have hrecord : ∀ material : Material τ (MaterialRecord τ),
        (⟨name, material⟩ : MaterialRecord τ).map rename =
          ⟨name, ((⟨name, material⟩ : MaterialRecord τ).map rename).material⟩ := by
      intro material
      cases material <;> rfl
    rw [hrecord material, hrecord material']
    exact .glossy hkind name (hrelated h name)
  | mix hkind hfirst hsecond name amount _ _ iha ihb =>
    exact .mix hkind hfirst hsecond name (amount.map rename) iha ihb
  | perturbed name normals strength _ ih => exact .perturbed name (normals.map rename) strength ih

/-- Records of a node that leads to no glossy node do not differ. -/
theorem eq (h : graph.DifferAtGlossy related node record record')
    (hnone : ∀ other, Relation.ReflTransGen graph.Mixes node other → other.kind ≠ .glossy) :
    record = record' := by
  induction h with
  | same => rfl
  | glossy hkind => exact absurd hkind (hnone _ .refl)
  | mix hkind hfirst hsecond _ _ _ _ iha ihb =>
    rw [iha fun other hother => hnone other (.head ⟨hkind, .inl hfirst⟩ hother),
      ihb fun other hother => hnone other (.head ⟨hkind, .inr hsecond⟩ hother)]
  | perturbed _ _ _ _ ih => rw [ih hnone]

/-- If the materials of glossy nodes differ by their exponents, the records do. -/
theorem eq_quartered (h : graph.DifferAtGlossy Material.Quartered node record record') :
    record' = record.quartered := by
  induction h with
  | same _ hvalid => exact (MaterialRecord.quartered_eq_self (hvalid .metal)).symm
  | glossy _ name h =>
    cases h with
    | exponent => rfl
    | smooth => rfl
  | mix _ _ _ _ _ _ _ iha ihb => rw [MaterialRecord.quartered, iha, ihb]
  | perturbed _ _ _ _ ih => rw [MaterialRecord.quartered, ih]

end DifferAtGlossy

/-! ## From glossy nodes to surfaces -/

section Surfaces

variable {related : Material Image (MaterialRecord Image) → Material Image (MaterialRecord Image) →
  Prop}

/-- The material of a node that is neither glossy nor a mixture is valid in every mode. -/
theorem material_valid_of_ne {side : ShadingNode → Translation (MaterialRecord Image)}
    (hkind : node.kind ≠ .glossy) (hkind' : node.kind ≠ .mix) :
    (graph.material mode side node).Ensures fun _ material => ∀ mode, material.ValidBase mode := by
  unfold material
  cases h : node.kind with
  | diffuse => exact fun material hmaterial mode => diffuse_valid material hmaterial
  | glass => exact fun material hmaterial mode => glass_valid material hmaterial
  | emission => exact fun material hmaterial mode => emission_valid material hmaterial
  | glossy => exact absurd h hkind
  | mix => exact absurd h hkind'
  | _ => exact ensures_fail

section Sides

variable {side side' : ShadingNode → Translation (MaterialRecord Image)}
  (hside : ∀ child, graph.Mixes node child →
    Follows failures (graph.DifferAtGlossy related child) (side child) (side' child))

include hside

/-- The sides of a mixture are followed one after the other. -/
theorem blend_follows (hkind : node.kind = .mix) :
    Follows failures
      (fun material material' => ∀ name,
        graph.DifferAtGlossy related node ⟨name, material⟩ ⟨name, material'⟩)
      (graph.blend side node) (graph.blend side' node) := by
  unfold blend
  cases hfirst : graph.feeding? node "Shader" with
  | none => exact follows_self fun _ h => nomatch h
  | some first =>
    cases hsecond : graph.feeding? node "Shader_001" with
    | none => exact follows_self fun _ h => nomatch h
    | some second =>
      refine follows_bind_same fun fac _ => follows_bind_same fun amount _ => ?_
      refine follows_bind (hside first ⟨hkind, .inl hfirst⟩) fun a a' _ ha => ?_
      refine follows_bind (hside second ⟨hkind, .inr hsecond⟩) fun b b' _ hb => ?_
      exact follows_pure fun name => .mix hkind hfirst hsecond name amount ha hb

/-- The glossy mode matters to the materials of glossy nodes and of mixtures. -/
theorem material_follows
    (hglossy : node.kind = .glossy →
      Follows failures related (graph.glossy mode node) (graph.glossy mode' node)) :
    Follows failures
      (fun material material' => ∀ name,
        graph.DifferAtGlossy related node ⟨name, material⟩ ⟨name, material'⟩)
      (graph.material mode side node) (graph.material mode' side' node) := by
  by_cases hkind : node.kind = .glossy
  · rw [material_of_glossy hkind, material_of_glossy hkind]
    exact (hglossy hkind).mono fun _ _ hrelated name => .glossy hkind name hrelated
  by_cases hkind' : node.kind = .mix
  · rw [material_of_mix hkind', material_of_mix hkind']
    exact blend_follows hside hkind'
  · rw [material_of_ne hkind hkind' mode' mode side' side]
    refine follows_self fun material houtcome name => ?_
    have hvalid := material_valid_of_ne hkind hkind' material houtcome
    exact .same hkind fun mode =>
      MaterialRecord.valid_of_parts name (hvalid mode).sound (hvalid mode).parts

end Sides

/-- The normals are perturbed alike, whatever the material. -/
theorem perturbed_follows {material material' : Material Image (MaterialRecord Image)}
    (h : ∀ name, graph.DifferAtGlossy related node ⟨name, material⟩ ⟨name, material'⟩)
    (name : Option String) :
    Follows failures (graph.DifferAtGlossy related node) (graph.perturbed node ⟨name, material⟩)
      (graph.perturbed node ⟨name, material'⟩) := by
  unfold perturbed
  split
  · next normal hnormal =>
    split
    · refine follows_bind_same fun normals _ => follows_bind_same fun strength _ => ?_
      exact follows_pure (.perturbed name normals strength (h none))
    · exact follows_pure (h name)
  · exact follows_pure (h name)

theorem surfaceStep_follows {side side' : ShadingNode → Translation (MaterialRecord Image)}
    (hside : ∀ child, graph.Mixes node child →
      Follows failures (graph.DifferAtGlossy related child) (side child) (side' child))
    (hglossy : node.kind = .glossy →
      Follows failures related (graph.glossy mode node) (graph.glossy mode' node))
    (name : Option String) :
    Follows failures (graph.DifferAtGlossy related node)
      (graph.surfaceStep mode side node name) (graph.surfaceStep mode' side' node name) := by
  unfold surfaceStep
  refine follows_bind_same fun _ _ => ?_
  refine follows_bind (material_follows hside hglossy) fun material material' _ h => ?_
  exact perturbed_follows h name

theorem surfaceWithin_follows (depth : Nat)
    (hglossy : ∀ other, Relation.ReflTransGen graph.Mixes node other → other.kind = .glossy →
      Follows failures related (graph.glossy mode other) (graph.glossy mode' other))
    (name : Option String) :
    Follows failures (graph.DifferAtGlossy related node)
      (graph.surfaceWithin mode depth node name) (graph.surfaceWithin mode' depth node name) := by
  -- Induction on the bound: the sides of a mixture lead to no more glossy nodes than the mixture.
  induction depth generalizing node name with
  | zero => exact follows_self fun _ h => nomatch h
  | succ depth ih =>
    refine surfaceStep_follows (fun child hchild => ?_) (hglossy node .refl) name
    exact ih (fun other hother => hglossy other (.head hchild hother)) none

/-- **From glossy nodes to surfaces**: if one mode follows another at every glossy node that a node
leads to, it follows on the surface of the node, with records that differ at these glossy nodes
alone. -/
theorem surface_follows
    (hglossy : ∀ other, Relation.ReflTransGen graph.Mixes node other → other.kind = .glossy →
      Follows failures related (graph.glossy mode other) (graph.glossy mode' other))
    (name : Option String) :
    Follows failures (graph.DifferAtGlossy related node)
      (graph.surface mode node name) (graph.surface mode' node name) :=
  surfaceWithin_follows graph.size hglossy name

end Surfaces

/-! ## Glossy nodes in two modes -/

/-- Two kinds of materials with an exponent are made of a node in the same way. -/
theorem glossyExponent_follows {related : Material Image (MaterialRecord Image) →
      Material Image (MaterialRecord Image) → Prop}
    {material material' : Float → Microfacet → VaryingColor Image →
      Material Image (MaterialRecord Image)}
    (hmaterial : ∀ exponent distribution albedo,
      related (material exponent distribution albedo) (material' exponent distribution albedo))
    (hsmooth : ∀ albedo, related (.metal (.constant 0) albedo) (.metal (.constant 0) albedo))
    (color : Socket) (distribution : Option Microfacet) :
    Follows failures related (graph.glossyExponent node color distribution material)
      (graph.glossyExponent node color distribution material') := by
  unfold glossyExponent
  refine follows_bind_same fun socket _ => ?_
  split
  · exact follows_self fun _ h => nomatch h
  · refine follows_bind_same fun roughness _ => follows_bind_same fun albedo _ => ?_
    split
    · split
      · exact follows_pure (hmaterial _ _ albedo)
      · exact follows_pure (hsmooth albedo)
    · exact follows_pure (hsmooth albedo)

/-- Phong mode follows Blinn-Phong mode at a glossy node. -/
theorem glossy_follows_phong :
    Follows failures Material.Quartered (graph.glossy .blinnPhong node)
      (graph.glossy .phong node) := by
  unfold glossy
  refine follows_bind_same fun distribution _ => follows_bind_same fun color _ => ?_
  exact glossyExponent_follows .exponent .smooth color distribution.microfacet?

/-- Metal mode follows the mode of conductors at a glossy node. -/
theorem glossy_follows_metal :
    Follows failures Material.Metallic (graph.glossy .roughConductor node)
      (graph.glossy .metal node) := by
  unfold glossy
  refine follows_bind_same fun distribution _ => follows_bind_same fun color _ => ?_
  dsimp only
  unfold glossyConductor glossyMetal
  cases distribution.microfacet? with
  | some distribution =>
    refine follows_bind_same fun roughness _ => follows_bind_same fun albedo _ => ?_
    exact follows_pure (.rough roughness distribution albedo)
  | none =>
    dsimp only
    rw [pure_bind]
    exact follows_bind_same fun albedo _ => follows_pure (.smooth albedo)

/-- A literal roughness is read without events. -/
theorem roughness_eq_pure {socket : Socket} {value : Float}
    (hsocket : node.getInput roughnessName = .ok socket) (hlink : socket.isLinked = false)
    (hvalue : socket.getNumber = .ok value) :
    graph.roughness node = pure (.constant (microfacetRoughness value)) := by
  have hname := ShadingNode.name_of_input? (ShadingNode.getInput_eq_ok.mp hsocket)
  have hnone : socket.link = none := by simpa [Socket.isLinked] using hlink
  have hupstream : graph.upstream? socket = none := by
    rw [upstream?, hnone]
    rfl
  unfold roughness scalar
  simp only [liftM_except, hsocket, ofExcept_ok_bind, hupstream, hvalue, hname, if_true]

/-- Where an exponent can be made of a glossy node, a conductor can be made in its place. -/
theorem glossyExponent_follows_conductor
    {material : Float → Microfacet → VaryingColor Image → Material Image (MaterialRecord Image)}
    (color : Socket) (distribution : Option Microfacet) :
    Follows False (fun _ _ => True) (graph.glossyExponent node color distribution material)
      (graph.glossyConductor node color distribution) := by
  unfold glossyExponent
  simp only [liftM_except]
  cases hsocket : node.getInput roughnessName with
  | error error => exact follows_of_error rfl
  | ok socket =>
    rw [ofExcept_ok_bind]
    cases hlink : socket.isLinked with
    | true => exact follows_of_error rfl
    | false =>
      rw [if_neg Bool.false_ne_true]
      cases hvalue : socket.getNumber with
      | error error => exact follows_of_error rfl
      | ok value =>
        rw [ofExcept_ok_bind]
        -- The literal that the exponent is made of is the roughness of the conductor.
        have hroughness := graph.roughness_eq_pure hsocket hlink hvalue
        cases distribution with
        | none =>
          exact follows_bind_same fun albedo _ => follows_pure trivial
        | some distribution =>
          unfold glossyConductor
          dsimp only
          rw [hroughness, pure_bind]
          refine follows_bind_same fun albedo _ => ?_
          split
          · exact follows_pure trivial
          · exact follows_pure trivial

/-- The mode of conductors follows the modes with an exponent at a glossy node, where these
succeed. -/
theorem glossy_follows_conductor (hmode : mode = .blinnPhong ∨ mode = .phong) :
    Follows False (fun _ _ => True) (graph.glossy mode node)
      (graph.glossy .roughConductor node) := by
  unfold glossy
  refine follows_bind_same fun distribution _ => follows_bind_same fun color _ => ?_
  rcases hmode with rfl | rfl
  · exact glossyExponent_follows_conductor color distribution.microfacet?
  · exact glossyExponent_follows_conductor color distribution.microfacet?

end Graph

/-! ## Translations that meet no glossy node -/

namespace Translation

variable {α β : Type}

/-- The translation of a glossy node starts on the way. -/
def MeetsGlossy (translation : Translation α) : Prop :=
  ∃ id, Event.trace (.translating .glossy id) ∈ translation.events

/-- A sequence meets what its first step meets, and what the rest meets on its value. -/
theorem meetsGlossy_bind {first : Translation α} {next : α → Translation β} :
    (first >>= next).MeetsGlossy ↔
      first.MeetsGlossy ∨ ∃ value, first.outcome = .ok value ∧ (next value).MeetsGlossy := by
  unfold MeetsGlossy
  cases hfirst : first.outcome with
  | error error =>
    rw [events_bind_error next hfirst]
    simp
  | ok value =>
    rw [events_bind_ok next hfirst]
    simp [exists_or]

/-- Without glossy nodes on the way, the steps of a sequence meet none. -/
theorem not_meetsGlossy_of_bind {first : Translation α} {next : α → Translation β}
    (h : ¬ (first >>= next).MeetsGlossy) {value : α} (hvalue : first.outcome = .ok value) :
    ¬ (next value).MeetsGlossy := by
  intro hnext
  exact h (meetsGlossy_bind.mpr (.inr ⟨value, hvalue, hnext⟩))

end Translation

namespace Graph

variable {graph : Graph} {node : ShadingNode} {mode mode' : GlossyMode}

/-- A mixture whose sides meet no glossy node is the same in all modes in which they are. -/
theorem blend_eq_of_not_meetsGlossy {side side' : ShadingNode → Translation (MaterialRecord Image)}
    (hside : ∀ child, ¬ (side child).MeetsGlossy → side' child = side child)
    (h : ¬ (graph.blend side node).MeetsGlossy) :
    graph.blend side' node = graph.blend side node := by
  unfold blend at h ⊢
  split
  · next first second hfirst hsecond =>
    rw [hfirst, hsecond] at h
    refine bind_congr_ok fun fac hfac => bind_congr_ok fun amount hamount => ?_
    have hsides := not_meetsGlossy_of_bind (not_meetsGlossy_of_bind h hfac) hamount
    have hfirstSide : side' first = side first :=
      hside first fun hmeets => hsides (meetsGlossy_bind.mpr (.inl hmeets))
    rw [hfirstSide]
    refine bind_congr_ok fun a ha => ?_
    have hrest := not_meetsGlossy_of_bind hsides ha
    rw [hside second fun hmeets => hrest (meetsGlossy_bind.mpr (.inl hmeets))]
  · rfl

/-- A translation that meets no glossy node is the same in every mode. -/
theorem surfaceWithin_eq_of_not_meetsGlossy {depth : Nat} {name : Option String}
    (h : ¬ (graph.surfaceWithin mode depth node name).MeetsGlossy) :
    graph.surfaceWithin mode' depth node name = graph.surfaceWithin mode depth node name := by
  -- Induction on the bound: a mixture meets what its sides meet, as far as these are translated.
  induction depth generalizing node name with
  | zero => rfl
  | succ depth ih =>
    have hmaterial := not_meetsGlossy_of_bind h (outcome_emit _)
    have hkind : node.kind ≠ .glossy := by
      intro hkind
      refine h (meetsGlossy_bind.mpr (.inl ⟨node.id, ?_⟩))
      rw [hkind]
      exact List.mem_singleton_self _
    show graph.surfaceStep _ _ _ _ = graph.surfaceStep _ _ _ _
    unfold surfaceStep
    refine bind_congr_ok fun _ _ => ?_
    by_cases hkind' : node.kind = .mix
    · rw [material_of_mix hkind', blend_eq_of_not_meetsGlossy (fun child hchild => ih hchild),
        ← material_of_mix hkind']
      rw [← material_of_mix hkind']
      exact fun hmeets => hmaterial (meetsGlossy_bind.mpr (.inl hmeets))
    · rw [material_of_ne hkind hkind' mode' mode]

/-- **The mode does not matter without glossy nodes**: if none is met in one mode, all modes do the
same. -/
theorem surface_eq_of_not_meetsGlossy {name : Option String}
    (h : ¬ (graph.surface mode node name).MeetsGlossy) :
    graph.surface mode' node name = graph.surface mode node name :=
  surfaceWithin_eq_of_not_meetsGlossy h

end Graph

/-! ## Sessions in two modes -/

namespace Session

/-- The session with another glossy mode. -/
def inGlossyMode (session : Session) (mode : GlossyMode) : Session :=
  { session with settings := { session.settings with glossyMode := mode } }

/-- The translation of a node in the session with another glossy mode. -/
def surfaceIn (session : Session) (mode : GlossyMode) (graph : Graph) (node : ShadingNode)
    (name : Option String) : Except TranslationError (MaterialRecord String) × Session :=
  (session.inGlossyMode mode).surface graph node name

/-- Two translations went alike: with the same error or related records, and with the same reports
and the same textures afterwards. -/
structure Alike (related : MaterialRecord String → MaterialRecord String → Prop)
    (first second : Except TranslationError (MaterialRecord String) × Session) : Prop where
  /-- The outcomes agree. -/
  outcome : OutcomesAgree related first.1 second.1
  /-- The reports are the same. -/
  reports : second.2.reports = first.2.reports
  /-- The textures are the same, and so are the copies to be made. -/
  textures : second.2.textures = first.2.textures

section Modes

variable {session : Session} {graph : Graph} {node : ShadingNode} {name : Option String}
  {mode mode' : GlossyMode}

/-- Translations with the same events and outcomes that agree go alike. -/
theorem surfaceIn_alike {related : MaterialRecord Image → MaterialRecord Image → Prop}
    {related' : MaterialRecord String → MaterialRecord String → Prop}
    (h : (graph.surface mode' node name).events = (graph.surface mode node name).events ∧
      OutcomesAgree related (graph.surface mode node name).outcome
        (graph.surface mode' node name).outcome)
    (hmap : ∀ (rename : Image → String) record record', related record record' →
      related' (record.map rename) (record'.map rename)) :
    Alike related' (session.surfaceIn mode graph node name)
      (session.surfaceIn mode' graph node name) := by
  obtain ⟨hevents, houtcome⟩ := h
  unfold surfaceIn surface run inGlossyMode perform
  dsimp only
  rw [hevents]
  exact ⟨houtcome.map (hmap _), rfl, rfl⟩

end Modes

/-- How the glossy modes agree on a node, in one session but for the mode. -/
structure ModesAgree (session : Session) (graph : Graph) (node : ShadingNode)
    (name : Option String) : Prop where
  /-- Phong mode does what Blinn-Phong mode does, with a quarter of every exponent. -/
  phong : Alike (fun record record' => record' = record.quartered)
    (session.surfaceIn .blinnPhong graph node name) (session.surfaceIn .phong graph node name)
  /-- Metal mode does what the mode of conductors does, with metals at glossy nodes. -/
  metal : Alike (graph.DifferAtGlossy Material.Metallic node)
    (session.surfaceIn .roughConductor graph node name) (session.surfaceIn .metal graph node name)
  /-- Where a mode with an exponent succeeds, so does the mode of conductors. -/
  conductor : ∀ mode, mode = .blinnPhong ∨ mode = .phong →
    ∀ record, (session.surfaceIn mode graph node name).1 = .ok record →
      Alike (fun _ _ => True) (session.surfaceIn mode graph node name)
        (session.surfaceIn .roughConductor graph node name)
  /-- If no glossy node is met in one mode, all modes do the same. -/
  unmet : ∀ mode, ¬ (graph.surface mode node name).MeetsGlossy →
    ∀ mode', Alike Eq (session.surfaceIn mode graph node name)
      (session.surfaceIn mode' graph node name)
  /-- If mixtures lead to no glossy node, all modes do the same. -/
  unreachable : (∀ other, Relation.ReflTransGen graph.Mixes node other → other.kind ≠ .glossy) →
    ∀ mode mode', Alike Eq (session.surfaceIn mode graph node name)
      (session.surfaceIn mode' graph node name)

/-- **The glossy modes agree**, whatever the session, the graph, the node and the name: the two
modes with an exponent up to a factor in it, the two with a roughness up to the distribution; the
mode of conductors succeeds wherever an exponent can be made; and all modes are the same where no
glossy node is met. -/
theorem surface_modesAgree (session : Session) (graph : Graph) (node : ShadingNode)
    (name : Option String) : session.ModesAgree graph node name where
  phong := by
    have hfollows : Follows True (graph.DifferAtGlossy Material.Quartered node)
        (graph.surface .blinnPhong node name) (graph.surface .phong node name) :=
      Graph.surface_follows (fun _ _ _ => Graph.glossy_follows_phong) name
    refine surfaceIn_alike hfollows.agree fun rename record record' h => ?_
    exact (h.map fun h name => h.map rename name).eq_quartered
  metal := by
    have hfollows : Follows True (graph.DifferAtGlossy Material.Metallic node)
        (graph.surface .roughConductor node name) (graph.surface .metal node name) :=
      Graph.surface_follows (fun _ _ _ => Graph.glossy_follows_metal) name
    refine surfaceIn_alike hfollows.agree fun rename record record' h => ?_
    exact h.map fun h name => h.map rename name
  conductor := by
    intro mode hmode record hrecord
    obtain ⟨skeleton, hskeleton, -⟩ := surface_eq_ok_iff.mp hrecord
    have hfollows : Follows False (graph.DifferAtGlossy (fun _ _ => True) node)
        (graph.surface mode node name) (graph.surface .roughConductor node name) :=
      Graph.surface_follows (fun _ _ _ => Graph.glossy_follows_conductor hmode) name
    exact surfaceIn_alike (hfollows.agree_of_ok hskeleton) fun _ _ _ _ => trivial
  unmet := by
    intro mode hunmet mode'
    have hsurface : graph.surface mode' node name = graph.surface mode node name :=
      Graph.surface_eq_of_not_meetsGlossy hunmet
    have hsame : Follows True Eq (graph.surface mode node name)
        (graph.surface mode' node name) := by
      rw [hsurface]
      exact follows_self fun _ _ => rfl
    exact surfaceIn_alike hsame.agree fun rename record record' h => congrArg _ h
  unreachable := by
    intro hnone mode mode'
    have hfollows : Follows True (graph.DifferAtGlossy (fun _ _ => False) node)
        (graph.surface mode node name) (graph.surface mode' node name) :=
      Graph.surface_follows (fun other hother hkind => absurd hkind (hnone other hother)) name
    refine surfaceIn_alike hfollows.agree fun rename record record' h => ?_
    rw [h.eq hnone]

end Session

end ShadingExport
