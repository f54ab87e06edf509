import ShadingExport.Record.Json
import ShadingExport.Proofs.Json.Same

/-!
# Exports are told apart by what they write

An export whose numbers are finite is the only one that writes its JSON value, whatever the order
of members in it: a constant is a number or an array and a texture an object, textures and Fresnel
factors differ in their `type`, an optional part is there or not, and the `type` of a record tells
which material it is. The proof goes down a record along its members, and the records that it nests
are told apart first.
-/

namespace ShadingExport

open Json (Same Unambiguous)

variable {τ : Type}

/-! ## The numbers of an export -/

/-- The numbers in a number that may vary. -/
def VaryingScalar.numbers : VaryingScalar τ → List Float
  | .constant value => [value]
  | .texture _ => []
  | .fresnel ior => [ior]

/-- The numbers in a color that may vary. -/
def VaryingColor.numbers : VaryingColor τ → List Float
  | .constant color => color.components
  | .texture _ => []

/-- The numbers in an optional color. -/
def optionalNumbers : Option (VaryingColor τ) → List Float
  | some color => color.numbers
  | none => []

/-- The numbers in a record, at any depth. -/
def MaterialRecord.numbers : MaterialRecord τ → List Float
  | ⟨_, .lambertian albedo⟩ => optionalNumbers albedo
  | ⟨_, .roughConductor roughness _ color⟩ => roughness.numbers ++ color.numbers
  | ⟨_, .conductor color⟩ => color.numbers
  | ⟨_, .blinnPhong exponent _ albedo⟩ => exponent :: albedo.numbers
  | ⟨_, .phong exponent _ albedo⟩ => exponent :: albedo.numbers
  | ⟨_, .metal roughness albedo⟩ => roughness.numbers ++ albedo.numbers
  | ⟨_, .dielectric ior transmittance⟩ => ior :: optionalNumbers transmittance
  | ⟨_, .thinDielectric ior transmittance⟩ => ior :: optionalNumbers transmittance
  | ⟨_, .roughDielectric roughness _ ior transmittance⟩ =>
    roughness.numbers ++ ior :: optionalNumbers transmittance
  | ⟨_, .diffuseLight emit⟩ => emit.components
  | ⟨_, .blend amount first second⟩ => amount.numbers ++ (first.numbers ++ second.numbers)
  | ⟨_, .normalMap normals strength nested⟩ =>
    normals.numbers ++ (strength.toList ++ nested.numbers)

/-- The numbers in a background. -/
def Background.numbers : Background τ → List Float
  | .constant radiance => radiance.components
  | .environment envmap => envmap.scale :: (envmap.transform.elim [] Matrix.rowMajor)

/-- The numbers in an export. -/
def ExportedScene.numbers (result : ExportedScene τ) : List Float :=
  result.background.numbers ++ result.materials.flatMap MaterialRecord.numbers

/-- Every number in the export is finite. -/
def ExportedScene.IsFinite (result : ExportedScene τ) : Prop :=
  ∀ number ∈ result.numbers, number.isFinite

/-! ## Members -/

/-- Looking a key up behind an optional member. -/
theorem Json.lookup_optionalMember_append {α : Type} (key query : String) (encode : α → Json)
    (option : Option α) (rest : List (String × Json)) :
    (Json.optionalMember key encode option ++ rest).lookup query =
      if query = key then (option.map encode).or (rest.lookup query) else rest.lookup query := by
  cases option with
  | none => simp [Json.optionalMember]
  | some value => simp [Json.optionalMember, Table.lookup_cons_eq]

/-- Looking a key up in an optional member alone. -/
theorem Json.lookup_optionalMember {α : Type} (key query : String) (encode : α → Json)
    (option : Option α) :
    (Json.optionalMember key encode option).lookup query =
      if query = key then option.map encode else none := by
  rw [← List.append_nil (Json.optionalMember key encode option),
    Json.lookup_optionalMember_append, List.lookup_nil, Option.or_none]

namespace MaterialRecord

/-- A record holds its name, if it has one. -/
theorem lookup_name (record : MaterialRecord String) :
    record.members.lookup "name" = record.name.map Json.string := by
  obtain ⟨name, material⟩ := record
  cases material <;>
    simp [members, head, transmittanceMember, Json.lookup_optionalMember_append,
      Json.lookup_optionalMember, Table.lookup_cons_eq]

/-- A record holds the name of its material's type. -/
theorem lookup_type (record : MaterialRecord String) :
    record.members.lookup "type" = some (.string record.material.typeName) := by
  obtain ⟨name, material⟩ := record
  cases material <;>
    simp [members, head, Material.typeName, Json.lookup_optionalMember_append]

/-- No key occurs twice in a record. -/
theorem nodup_keys (record : MaterialRecord String) : (record.members.map Prod.fst).Nodup := by
  obtain ⟨name, material⟩ := record
  -- The members that are there depend on the name and on the optional part of the material.
  cases material with
  | lambertian albedo =>
    cases name <;> cases albedo <;> simp [members, head, Json.optionalMember]
  | dielectric _ transmittance | thinDielectric _ transmittance
  | roughDielectric _ _ _ transmittance =>
    cases name <;> cases transmittance <;>
      simp [members, head, transmittanceMember, Json.optionalMember]
  | normalMap _ strength _ =>
    cases name <;> cases strength <;> simp [members, head, Json.optionalMember]
  | roughConductor | conductor | blinnPhong | phong | metal | diffuseLight | blend =>
    cases name <;> simp [members, head, Json.optionalMember]

end MaterialRecord

/-! ## Values and textures -/

/-- Colors are told apart. -/
theorem Color.unambiguous : Unambiguous Color.IsFinite Color.toJson := by
  intro first second hfirst hsecond hsame
  have hcomponents : first.components = second.components :=
    Json.unambiguous_ofFloat.of_array hfirst hsecond hsame
  obtain ⟨red, green, blue⟩ := first
  obtain ⟨red', green', blue'⟩ := second
  cases hcomponents
  rfl

/-- No key occurs twice in a texture. -/
theorem ImageTexture.nodup_keys (texture : ImageTexture String) :
    (([("type", Json.string "image"), ("filename", Json.string texture.file)] ++
      (if texture.raw then [("raw", Json.bool true)] else [])).map Prod.fst).Nodup := by
  cases texture.raw <;> simp

/-- Textures are told apart. -/
theorem ImageTexture.unambiguous : Unambiguous (fun _ => True) ImageTexture.toJson := by
  intro first second _ _ hsame
  have hmembers := Same.lookup hsame (nodup_keys first) (nodup_keys second)
  have hfile := hmembers "filename"
  have hraw := hmembers "raw"
  obtain ⟨file, raw⟩ := first
  obtain ⟨file', raw'⟩ := second
  simp only [List.cons_append, List.nil_append, Table.lookup_cons_eq, String.reduceEq,
    reduceIte] at hfile hraw
  rw [Json.unambiguous_string.of_rel_some trivial trivial hfile]
  -- The member is written for raw textures only.
  cases raw <;> cases raw'
  · rfl
  · exact absurd hraw (by simp)
  · exact absurd hraw (by simp)
  · rfl

/-- The keys of a Fresnel factor. -/
theorem VaryingScalar.nodup_keys_fresnel (ior : Float) :
    ([("type", Json.string "fresnel"), ("ior", Json.ofFloat ior)].map Prod.fst).Nodup := by
  simp

/-- Numbers that may vary are told apart: constants are numbers, and the `type` tells textures from
Fresnel factors. -/
theorem VaryingScalar.unambiguous :
    Unambiguous (fun value => ∀ number ∈ value.numbers, number.isFinite)
      VaryingScalar.toJson := by
  intro first second hfirst hsecond hsame
  cases first with
  | constant value =>
    have hvalue : value.isFinite := hfirst value List.mem_cons_self
    cases second with
    | constant value' =>
      rw [Json.unambiguous_ofFloat hvalue (hsecond value' List.mem_cons_self) hsame]
    | texture reference =>
      rw [toJson, Json.ofFloat_of_isFinite hvalue] at hsame
      exact absurd hsame Json.not_same_float_object
    | fresnel ior =>
      rw [toJson, Json.ofFloat_of_isFinite hvalue] at hsame
      exact absurd hsame Json.not_same_float_object
  | texture reference =>
    cases second with
    | constant value' =>
      rw [toJson, toJson, Json.ofFloat_of_isFinite (hsecond value' List.mem_cons_self)] at hsame
      exact absurd hsame.symm Json.not_same_float_object
    | texture reference' => rw [ImageTexture.unambiguous trivial trivial hsame]
    | fresnel ior' =>
      have htype := Same.lookup hsame reference.nodup_keys (nodup_keys_fresnel ior') "type"
      simp only [List.cons_append, Table.lookup_cons_eq, reduceIte] at htype
      exact absurd (Json.unambiguous_string.of_rel_some trivial trivial htype) (by decide)
  | fresnel ior =>
    cases second with
    | constant value' =>
      rw [toJson, toJson, Json.ofFloat_of_isFinite (hsecond value' List.mem_cons_self)] at hsame
      exact absurd hsame.symm Json.not_same_float_object
    | texture reference' =>
      have htype := Same.lookup hsame (nodup_keys_fresnel ior) reference'.nodup_keys "type"
      simp only [List.cons_append, Table.lookup_cons_eq, reduceIte] at htype
      exact absurd (Json.unambiguous_string.of_rel_some trivial trivial htype) (by decide)
    | fresnel ior' =>
      have hior := Same.lookup hsame (nodup_keys_fresnel ior) (nodup_keys_fresnel ior') "ior"
      simp only [Table.lookup_cons_eq, String.reduceEq, reduceIte] at hior
      rw [Json.unambiguous_ofFloat.of_rel_some (hfirst ior List.mem_cons_self)
        (hsecond ior' List.mem_cons_self) hior]

/-- Colors that may vary are told apart: constants are arrays. -/
theorem VaryingColor.unambiguous :
    Unambiguous (fun value => ∀ number ∈ value.numbers, number.isFinite) VaryingColor.toJson := by
  intro first second hfirst hsecond hsame
  cases first with
  | constant color =>
    cases second with
    | constant color' => rw [Color.unambiguous hfirst hsecond hsame]
    | texture reference' => exact absurd hsame Json.not_same_array_object
  | texture reference =>
    cases second with
    | constant color' => exact absurd hsame.symm Json.not_same_array_object
    | texture reference' => rw [ImageTexture.unambiguous trivial trivial hsame]

/-- Optional colors are told apart by a member that is written where there is one. -/
theorem VaryingColor.eq_of_rel_map {first second : Option (VaryingColor String)}
    (hfirst : ∀ number ∈ optionalNumbers first, number.isFinite)
    (hsecond : ∀ number ∈ optionalNumbers second, number.isFinite)
    (hrel : Option.Rel Same (first.map toJson) (second.map toJson)) : first = second := by
  refine unambiguous.of_rel_map ?_ ?_ hrel
  · rintro value rfl
    exact hfirst
  · rintro value rfl
    exact hsecond

/-- Microfacet distributions are told apart. -/
theorem Microfacet.unambiguous : Unambiguous (fun _ => True) Microfacet.toJson := by
  intro first second _ _ hsame
  have hname : first.name = second.name := Json.unambiguous_string trivial trivial hsame
  cases first <;> cases second <;> first | rfl | exact absurd hname (by decide)

/-! ## Records -/

namespace MaterialRecord

/-- What records that are written the same have in common: the name, the type, and what they hold
under every key. -/
theorem members_of_same {first second : MaterialRecord String}
    (hsame : Same first.toJson second.toJson) :
    first.name = second.name ∧ first.material.typeName = second.material.typeName ∧
      ∀ key, Option.Rel Same (first.members.lookup key) (second.members.lookup key) := by
  have hmembers := Same.lookup hsame first.nodup_keys second.nodup_keys
  refine ⟨?_, ?_, hmembers⟩
  · have hname := hmembers "name"
    rw [lookup_name, lookup_name] at hname
    exact Json.unambiguous_string.of_rel_map (fun _ _ => trivial) (fun _ _ => trivial) hname
  · have htype := hmembers "type"
    rw [lookup_type, lookup_type] at htype
    exact Json.unambiguous_string.of_rel_some trivial trivial htype

/-- **Records of finite numbers are told apart by what they write**, at any depth. -/
theorem eq_of_same {first second : MaterialRecord String}
    (hfirst : ∀ number ∈ first.numbers, number.isFinite)
    (hsecond : ∀ number ∈ second.numbers, number.isFinite)
    (hsame : Same first.toJson second.toJson) : first = second := by
  obtain ⟨hname, htype, hmembers⟩ := members_of_same hsame
  obtain ⟨name, material⟩ := first
  obtain ⟨name', material'⟩ := second
  cases hname
  -- Materials of different types do not meet.
  cases material <;> cases material' <;> try (simp [Material.typeName] at htype; done)
  all_goals
    simp only [members, head, transmittanceMember, List.append_assoc, List.cons_append,
      List.nil_append, Json.lookup_optionalMember_append, Json.lookup_optionalMember,
      Table.lookup_cons_eq, List.lookup_nil] at hmembers
    simp only [numbers, List.forall_mem_append, List.forall_mem_cons] at hfirst hsecond
  case lambertian.lambertian albedo albedo' =>
    have halbedo := hmembers "albedo"
    simp only [String.reduceEq, reduceIte] at halbedo
    rw [VaryingColor.eq_of_rel_map hfirst hsecond halbedo]
  case roughConductor.roughConductor roughness distribution color roughness' distribution' color' =>
    have hroughness := hmembers "roughness"
    have hdistribution := hmembers "distribution"
    have hcolor := hmembers "color"
    simp only [String.reduceEq, reduceIte] at hroughness hdistribution hcolor
    rw [VaryingScalar.unambiguous.of_rel_some hfirst.1 hsecond.1 hroughness,
      Microfacet.unambiguous.of_rel_some trivial trivial hdistribution,
      VaryingColor.unambiguous.of_rel_some hfirst.2 hsecond.2 hcolor]
  case conductor.conductor color color' =>
    have hcolor := hmembers "color"
    simp only [String.reduceEq, reduceIte] at hcolor
    rw [VaryingColor.unambiguous.of_rel_some hfirst hsecond hcolor]
  case blinnPhong.blinnPhong exponent distribution albedo exponent' distribution' albedo' =>
    have hexponent := hmembers "exponent"
    have hdistribution := hmembers "distribution"
    have halbedo := hmembers "albedo"
    simp only [String.reduceEq, reduceIte] at hexponent hdistribution halbedo
    rw [Json.unambiguous_ofFloat.of_rel_some hfirst.1 hsecond.1 hexponent,
      Microfacet.unambiguous.of_rel_some trivial trivial hdistribution,
      VaryingColor.unambiguous.of_rel_some hfirst.2 hsecond.2 halbedo]
  case phong.phong exponent distribution albedo exponent' distribution' albedo' =>
    have hexponent := hmembers "exponent"
    have hdistribution := hmembers "distribution"
    have halbedo := hmembers "albedo"
    simp only [String.reduceEq, reduceIte] at hexponent hdistribution halbedo
    rw [Json.unambiguous_ofFloat.of_rel_some hfirst.1 hsecond.1 hexponent,
      Microfacet.unambiguous.of_rel_some trivial trivial hdistribution,
      VaryingColor.unambiguous.of_rel_some hfirst.2 hsecond.2 halbedo]
  case metal.metal roughness albedo roughness' albedo' =>
    have hroughness := hmembers "roughness"
    have halbedo := hmembers "albedo"
    simp only [String.reduceEq, reduceIte] at hroughness halbedo
    rw [VaryingScalar.unambiguous.of_rel_some hfirst.1 hsecond.1 hroughness,
      VaryingColor.unambiguous.of_rel_some hfirst.2 hsecond.2 halbedo]
  case dielectric.dielectric ior transmittance ior' transmittance' =>
    have hior := hmembers "ior"
    have htransmittance := hmembers "specular_transmittance"
    simp only [String.reduceEq, reduceIte] at hior htransmittance
    rw [Json.unambiguous_ofFloat.of_rel_some hfirst.1 hsecond.1 hior,
      VaryingColor.eq_of_rel_map hfirst.2 hsecond.2 htransmittance]
  case thinDielectric.thinDielectric ior transmittance ior' transmittance' =>
    have hior := hmembers "ior"
    have htransmittance := hmembers "specular_transmittance"
    simp only [String.reduceEq, reduceIte] at hior htransmittance
    rw [Json.unambiguous_ofFloat.of_rel_some hfirst.1 hsecond.1 hior,
      VaryingColor.eq_of_rel_map hfirst.2 hsecond.2 htransmittance]
  case roughDielectric.roughDielectric roughness distribution ior transmittance
      roughness' distribution' ior' transmittance' =>
    have hroughness := hmembers "roughness"
    have hdistribution := hmembers "distribution"
    have hior := hmembers "ior"
    have htransmittance := hmembers "specular_transmittance"
    simp only [String.reduceEq, reduceIte] at hroughness hdistribution hior htransmittance
    rw [VaryingScalar.unambiguous.of_rel_some hfirst.1 hsecond.1 hroughness,
      Microfacet.unambiguous.of_rel_some trivial trivial hdistribution,
      Json.unambiguous_ofFloat.of_rel_some hfirst.2.1 hsecond.2.1 hior,
      VaryingColor.eq_of_rel_map hfirst.2.2 hsecond.2.2 htransmittance]
  case diffuseLight.diffuseLight emit emit' =>
    have hemit := hmembers "emit"
    simp only [String.reduceEq, reduceIte] at hemit
    rw [Color.unambiguous.of_rel_some hfirst hsecond hemit]
  case blend.blend amount left right amount' left' right' =>
    have hamount := hmembers "amount"
    have hleft := hmembers "a"
    have hright := hmembers "b"
    simp only [String.reduceEq, reduceIte] at hamount hleft hright
    rw [VaryingScalar.unambiguous.of_rel_some hfirst.1 hsecond.1 hamount,
      eq_of_same hfirst.2.1 hsecond.2.1 (Option.rel_some_some.mp hleft),
      eq_of_same hfirst.2.2 hsecond.2.2 (Option.rel_some_some.mp hright)]
  case normalMap.normalMap normals strength nested normals' strength' nested' =>
    have hnormals := hmembers "normals"
    have hstrength := hmembers "strength"
    have hnested := hmembers "nested"
    simp only [String.reduceEq, reduceIte, Option.or_none] at hnormals hstrength hnested
    have hpresent : ∀ value ∈ strength, value.isFinite :=
      fun value hvalue => hfirst.2.1 value (Option.mem_toList.mpr hvalue)
    have hpresent' : ∀ value ∈ strength', value.isFinite :=
      fun value hvalue => hsecond.2.1 value (Option.mem_toList.mpr hvalue)
    rw [VaryingColor.unambiguous.of_rel_some hfirst.1 hsecond.1 hnormals,
      Json.unambiguous_ofFloat.of_rel_map hpresent hpresent' hstrength,
      eq_of_same hfirst.2.2 hsecond.2.2 (Option.rel_some_some.mp hnested)]

end MaterialRecord

/-! ## Backgrounds -/

/-- Matrices are told apart. -/
theorem Matrix.unambiguous :
    Unambiguous (fun matrix => ∀ number ∈ matrix.rowMajor, number.isFinite) Matrix.toJson := by
  intro first second hfirst hsecond hsame
  have hmatrix := Same.lookup hsame (by simp) (by simp) "matrix"
  rw [Table.lookup_cons_eq, Table.lookup_cons_eq, if_pos rfl, if_pos rfl] at hmatrix
  have hentries : first.rowMajor = second.rowMajor :=
    Json.unambiguous_ofFloat.of_array hfirst hsecond (Option.rel_some_some.mp hmatrix)
  obtain ⟨⟨_, _, _, _⟩, ⟨_, _, _, _⟩, ⟨_, _, _, _⟩, ⟨_, _, _, _⟩⟩ := first
  obtain ⟨⟨_, _, _, _⟩, ⟨_, _, _, _⟩, ⟨_, _, _, _⟩, ⟨_, _, _, _⟩⟩ := second
  cases hentries
  rfl

/-- No key occurs twice in an environment map. -/
theorem Envmap.nodup_keys (envmap : Envmap String) :
    (([("type", Json.string "envmap"), ("filename", Json.string envmap.file),
      ("scale", Json.ofFloat envmap.scale)] ++
      Json.optionalMember "transform" Matrix.toJson envmap.transform).map Prod.fst).Nodup := by
  cases envmap.transform <;> simp [Json.optionalMember]

/-- Environment maps are told apart. -/
theorem Envmap.unambiguous :
    Unambiguous (fun envmap => ∀ number ∈ (Background.environment envmap).numbers, number.isFinite)
      Envmap.toJson := by
  intro first second hfirst hsecond hsame
  have hmembers := Same.lookup hsame (nodup_keys first) (nodup_keys second)
  obtain ⟨file, scale, transform⟩ := first
  obtain ⟨file', scale', transform'⟩ := second
  simp only [Background.numbers, List.forall_mem_cons] at hfirst hsecond
  have hfile := hmembers "filename"
  have hscale := hmembers "scale"
  have htransform := hmembers "transform"
  simp only [List.cons_append, List.nil_append, Json.lookup_optionalMember, Table.lookup_cons_eq,
    String.reduceEq, reduceIte] at hfile hscale htransform
  have hpresent : ∀ matrix ∈ transform, ∀ number ∈ matrix.rowMajor, number.isFinite := by
    rintro matrix rfl
    exact hfirst.2
  have hpresent' : ∀ matrix ∈ transform', ∀ number ∈ matrix.rowMajor, number.isFinite := by
    rintro matrix rfl
    exact hsecond.2
  rw [Json.unambiguous_string.of_rel_some trivial trivial hfile,
    Json.unambiguous_ofFloat.of_rel_some hfirst.1 hsecond.1 hscale,
    Matrix.unambiguous.of_rel_map hpresent hpresent' htransform]

/-- Backgrounds are told apart: a constant one is an array. -/
theorem Background.unambiguous :
    Unambiguous (fun background => ∀ number ∈ background.numbers, number.isFinite)
      Background.toJson := by
  intro first second hfirst hsecond hsame
  cases first with
  | constant radiance =>
    cases second with
    | constant radiance' => rw [Color.unambiguous hfirst hsecond hsame]
    | environment envmap' => exact absurd hsame Json.not_same_array_object
  | environment envmap =>
    cases second with
    | constant radiance' => exact absurd hsame.symm Json.not_same_array_object
    | environment envmap' => rw [Envmap.unambiguous hfirst hsecond hsame]

/-! ## Exports -/

/-- Exports of finite numbers are told apart. -/
theorem ExportedScene.eq_of_same {first second : ExportedScene String} (hfirst : first.IsFinite)
    (hsecond : second.IsFinite) (hsame : Same first.toJson second.toJson) : first = second := by
  have hmembers := Same.lookup hsame (by simp) (by simp)
  obtain ⟨background, materials⟩ := first
  obtain ⟨background', materials'⟩ := second
  have hbackground := hmembers "background"
  have hmaterials := hmembers "materials"
  simp only [Table.lookup_cons_eq, String.reduceEq, reduceIte] at hbackground hmaterials
  obtain ⟨hfinite, hrecords⟩ := List.forall_mem_append.mp hfirst
  obtain ⟨hfinite', hrecords'⟩ := List.forall_mem_append.mp hsecond
  have hrecord : Unambiguous (fun record => ∀ number ∈ record.numbers, number.isFinite)
      MaterialRecord.toJson := MaterialRecord.eq_of_same
  have hsameBackground : background = background' :=
    Background.unambiguous.of_rel_some hfinite hfinite' hbackground
  have hsameMaterials : materials = materials' :=
    hrecord.of_array (List.forall_mem_flatMap.mp hrecords) (List.forall_mem_flatMap.mp hrecords')
      (Option.rel_some_some.mp hmaterials)
  rw [hsameBackground, hsameMaterials]

/-! ## Whatever is written has a canonical form -/

/-- An optional member has a canonical form if what it writes has one. -/
theorem Json.membersHaveForm_optionalMember {α : Type} {encode : α → Json}
    (h : ∀ value, (encode value).HasForm) (key : String) (option : Option α) :
    Json.MembersHaveForm (Json.optionalMember key encode option) := by
  cases option with
  | none => exact Json.membersHaveForm_nil
  | some value => exact List.forall_mem_singleton.mpr (h value)

/-- A list of doubles has a canonical form. -/
theorem Json.hasForm_numbers (numbers : List Float) :
    (Json.array (numbers.map Json.ofFloat)).HasForm :=
  Json.hasForm_array (List.forall_mem_map.mpr fun number _ => Json.hasForm_ofFloat number)

theorem ImageTexture.hasForm_toJson (texture : ImageTexture String) : texture.toJson.HasForm := by
  refine Json.hasForm_object ?_
  cases texture.raw <;> simp

theorem VaryingScalar.hasForm_toJson (value : VaryingScalar String) : value.toJson.HasForm := by
  cases value with
  | constant value => exact Json.hasForm_ofFloat value
  | texture reference => exact reference.hasForm_toJson
  | fresnel ior => exact Json.hasForm_object (by simp)

theorem VaryingColor.hasForm_toJson (value : VaryingColor String) : value.toJson.HasForm := by
  cases value with
  | constant color => exact Json.hasForm_numbers color.components
  | texture reference => exact reference.hasForm_toJson

/-- Every record has a canonical form. -/
theorem MaterialRecord.hasForm_toJson (record : MaterialRecord String) :
    record.toJson.HasForm := by
  refine Json.hasForm_object ?_
  obtain ⟨name, material⟩ := record
  have hname := Json.membersHaveForm_optionalMember Json.hasForm_string "name" name
  have hcolor := Json.membersHaveForm_optionalMember VaryingColor.hasForm_toJson
  cases material with
  | blend amount first second =>
    have hfirst := first.hasForm_toJson
    have hsecond := second.hasForm_toJson
    rw [toJson] at hfirst hsecond
    simp [members, head, hname, hfirst, hsecond, amount.hasForm_toJson]
  | normalMap normals strength nested =>
    have hnested := nested.hasForm_toJson
    rw [toJson] at hnested
    have hstrength := Json.membersHaveForm_optionalMember Json.hasForm_ofFloat "strength" strength
    simp [members, head, hname, hnested, hstrength, normals.hasForm_toJson]
  | diffuseLight emit =>
    have hemit : emit.toJson.HasForm := Json.hasForm_numbers emit.components
    simp [members, head, hname, hemit]
  | lambertian | roughConductor | conductor | blinnPhong | phong | metal | dielectric
  | thinDielectric | roughDielectric =>
    simp [members, head, transmittanceMember, hname, hcolor, Microfacet.toJson,
      VaryingScalar.hasForm_toJson, VaryingColor.hasForm_toJson]

theorem Background.hasForm_toJson (background : Background String) :
    background.toJson.HasForm := by
  cases background with
  | constant radiance => exact Json.hasForm_numbers radiance.components
  | environment envmap =>
    have hmatrix : ∀ matrix : Matrix Float, matrix.toJson.HasForm := fun matrix =>
      Json.hasForm_object (List.forall_mem_singleton.mpr (Json.hasForm_numbers matrix.rowMajor))
    have htransform :=
      Json.membersHaveForm_optionalMember hmatrix "transform" envmap.transform
    exact Json.hasForm_object (by simp [htransform])

/-- Every export has a canonical form. -/
theorem ExportedScene.hasForm_toJson (result : ExportedScene String) : result.toJson.HasForm := by
  have hmaterials : (Json.array (result.materials.map MaterialRecord.toJson)).HasForm :=
    Json.hasForm_array (List.forall_mem_map.mpr fun record _ => record.hasForm_toJson)
  exact Json.hasForm_object (by simp [result.background.hasForm_toJson, hmaterials])

/-! ## The encoding is unambiguous -/

/-- **An export of finite numbers is the only one that writes its JSON value**: every export writes
a value with a canonical form, which forgets the order of members, and this form tells exports
apart. Every record writes an object in which no key occurs twice, and its `type` is the name of
the material's type. -/
theorem ExportedScene.encoding_unambiguous :
    (∀ result : ExportedScene String, ∃ form, result.toJson.canonical? = some form) ∧
      (∀ first second : ExportedScene String, first.IsFinite → second.IsFinite →
        first.toJson.canonical? = second.toJson.canonical? → first = second) ∧
      ∀ record : MaterialRecord String, ∃ members, record.toJson = .object members ∧
        (members.map Prod.fst).Nodup ∧
        members.lookup "type" = some (.string record.material.typeName) := by
  refine ⟨hasForm_toJson, fun first second hfirst hsecond hsame => ?_, fun record =>
    ⟨record.members, rfl, record.nodup_keys, record.lookup_type⟩⟩
  obtain ⟨form, hform⟩ := first.hasForm_toJson
  exact eq_of_same hfirst hsecond ⟨form, hform, hsame ▸ hform⟩

/-- A glaze over a mixture, whose normals are data or colors, under a sky of one grey. -/
def ExportedScene.porcelain (sky : Color) (raw : Bool) : ExportedScene String where
  background := .constant sky
  materials := [⟨some "Glaze", .normalMap (.texture ⟨"textures/glaze.png", raw⟩) (some 2.0)
    ⟨none, .blend (.fresnel 1.5) ⟨none, .lambertian none⟩ ⟨none, .dielectric 1.5 none⟩⟩⟩]

/-- What the porcelain writes for raw normals is written for no others. -/
theorem ExportedScene.encoding_unambiguous_porcelain :
    let first := porcelain (.grey 0.5) true
    let second := porcelain ⟨0.5, 0.5, 0.5⟩ true
    let third := porcelain (.grey 0.5) false
    first.IsFinite ∧ second.IsFinite ∧ third.IsFinite ∧
      first.toJson.canonical? = second.toJson.canonical? ∧ first = second ∧
      first.toJson.canonical? ≠ third.toJson.canonical? := by
  have hfirst : (porcelain (.grey 0.5) true).IsFinite := by
    unfold IsFinite
    decide +kernel
  have hthird : (porcelain (.grey 0.5) false).IsFinite := by
    unfold IsFinite
    decide +kernel
  obtain ⟨-, hunambiguous, -⟩ := encoding_unambiguous
  refine ⟨hfirst, hfirst, hthird, rfl, hunambiguous _ _ hfirst hfirst rfl, fun hsame => ?_⟩
  have hequal := hunambiguous _ _ hfirst hthird hsame
  simp [porcelain] at hequal

end ShadingExport
