import ShadingExport.Proofs.Session.Announcements
import ShadingExport.Proofs.Session.Idempotence

/-!
# Flattening covers conversion

In flatten mode an export lists a placeholder for every exported name of the materials in use, and
nothing else (`Session.records_filled_of_flatten`). The list is decided by the names of materials
and their numbers of users (`Scene.exportedNames_wanted_flatten`). Conversion visits some of these
materials and adds no name of its own, so every name that it exports is in the list. Placeholders
need no texture and cannot fail, which shows in what is reported (`Plan.mem_reportsOf_ofScene`).
-/

namespace ShadingExport

open Translation

/-! ## Which names are exported -/

/-- More materials have more exported names. -/
theorem exportedNames_subset {materials more : List HostMaterial} (h : materials ⊆ more) :
    exportedNames materials ⊆ exportedNames more := by
  intro name hname
  obtain ⟨hreserved, material, hmaterial, hexported⟩ := mem_exportedNames.mp hname
  exact mem_exportedNames.mpr ⟨hreserved, material, h hmaterial, hexported⟩

namespace Scene

variable {scene other : Scene}

/-- What conversion wants, flattening wants. -/
theorem wanted_convert_subset (scene : Scene) : scene.wanted .convert ⊆ scene.wanted .flatten := by
  intro material hmaterial
  have hmem : material ∈ scene.materials := scene.wanted_subset .convert hmaterial
  have hwanted : material.isWanted = true := (List.mem_filter.mp hmaterial).2
  exact List.mem_filter.mpr ⟨hmem, hwanted⟩

/-- The materials of a scene as a host lists them: each name with its number of users. -/
def listing (scene : Scene) : List (String × UInt32) :=
  scene.materials.map fun material => (material.name, material.users)

/-- **Flattening looks at the listing alone**: scenes with the same listing have the same exported
names. -/
theorem exportedNames_wanted_flatten (h : other.listing = scene.listing) :
    exportedNames (other.wanted .flatten) = exportedNames (scene.wanted .flatten) := by
  -- Whether a material is wanted is a matter of its entry in the listing, and so is its name.
  have hnames : ∀ scene : Scene, (scene.wanted .flatten).map (exportedName ·.name) =
      (scene.listing.filter fun entry => entry.2 > 0 && entry.1 != HostMaterial.ignoredName).map
        (exportedName ·.1) := by
    intro scene
    rw [listing, List.filter_map, List.map_map]
    rfl
  rw [exportedNames, exportedNames, hnames, hnames, h]

end Scene

/-! ## What is reported -/

/-- **What an export reports**: that it writes the reserved record, that it writes a material or
dismisses a visit, and what becomes of the materials that it writes. -/
theorem Plan.mem_reportsOf_ofScene {settings : Settings} {scene : Scene} {report : Report}
    (h : report ∈ reportsOf (Plan.ofScene settings scene).events) :
    report = .writingDefault ∨ (Event.report report).IsDismissal ∨
      ∃ material ∈ written (scene.wanted settings.materialMode),
        report = .writing material.name ∨
          report ∈ reportsOf (material.settled settings).events := by
  refine (ofScene_induction (motive := fun seen plan => plan.Lists settings seen ∧
    ∀ report ∈ reportsOf plan.events,
      report = .writingDefault ∨ (Event.report report).IsDismissal ∨
        ∃ material ∈ written seen, report = .writing material.name ∨
          report ∈ reportsOf (material.settled settings).events) ⟨rfl, ?_⟩ ?_ scene).2 report h
  · intro report hreport
    exact .inl (List.mem_singleton.mp hreport)
  rintro seen plan visit ⟨hlists, hreports⟩
  refine ⟨hlists.visit visit, ?_⟩
  rcases hlists.visit_cases visit with ⟨events, hevents, hvisit, hwritten⟩ |
    ⟨material, hwritten, hvisit⟩
  · rw [hvisit, hwritten, Plan.perform, reportsOf_append]
    intro report hreport
    rcases List.mem_append.mp hreport with hold | hnew
    · exact hreports report hold
    · obtain ⟨event, hevent, hsome⟩ := List.mem_filterMap.mp hnew
      cases event with
      | trace trace => cases hsome
      | texture image => cases hsome
      | report other =>
        cases hsome
        exact .inr (.inl (hevents _ hevent))
  · rw [hvisit, hwritten, reportsOf_append, reportsOf_append]
    intro report hreport
    rcases List.mem_append.mp hreport with hreport | hwriting
    · rcases List.mem_append.mp hreport with hold | hsettled
      · refine (hreports report hold).imp_right (Or.imp_right ?_)
        rintro ⟨earlier, hearlier, hreport⟩
        exact ⟨earlier, List.mem_append_left _ hearlier, hreport⟩
      · exact .inr (.inr ⟨material, List.mem_append_right _ (List.mem_singleton_self _),
          .inr hsettled⟩)
    · exact .inr (.inr ⟨material, List.mem_append_right _ (List.mem_singleton_self _),
        .inl (List.mem_singleton.mp hwriting)⟩)

/-- **No dismissal is taken for a failure.** -/
theorem Report.not_isMaterialFailure_of_isDismissal {report : Report}
    (h : (Event.report report).IsDismissal) : ¬ report.IsMaterialFailure := by
  rintro ⟨-, hbegins⟩
  cases report with
  | nameTaken material exported owner =>
    refine absurd hbegins ?_
    show ¬ _ <+: ("Material '" ++ material ++ _ ++ exported ++ _ ++ _).toList
    simp only [String.append_assoc]
    rw [String.toList_append]
    exact not_isPrefix_append (by decide) (by decide) _
  | nameReserved material exported =>
    refine absurd hbegins ?_
    show ¬ _ <+: ("Material '" ++ material ++ _ ++ exported ++ _).toList
    simp only [String.append_assoc]
    rw [String.toList_append]
    exact not_isPrefix_append (by decide) (by decide) _
  | unknownMaterial object material =>
    refine absurd hbegins ?_
    show ¬ _ <+: ("Object '" ++ object ++ _ ++ material ++ _).toList
    simp only [String.append_assoc]
    rw [String.toList_append]
    exact not_isPrefix_append (by decide) (by decide) _
  | _ => exact h.elim

/-! ## The flattened export -/

/-- Flattening settles on the placeholder of a material, and nothing happens. -/
theorem HostMaterial.settled_of_flatten {settings : Settings}
    (hflatten : settings.materialMode = .flatten) (material : HostMaterial) :
    material.settled settings = ⟨[], placeholderMaterial material.name⟩ := by
  unfold settled
  rw [hflatten]

namespace Session

variable {session : Session} {scene : Scene}

/-- **A flattened export in closed form**: the reserved record, then a placeholder for each exported
name of the materials in use. -/
theorem records_filled_of_flatten (hempty : session.registry = .empty)
    (hflatten : session.settings.materialMode = .flatten) (scene : Scene) :
    (session.filled scene).registry.records =
      reservedMaterial :: (exportedNames (scene.wanted .flatten)).map
        (MaterialRecord.flat · placeholderColor) := by
  have hplaceholder : ∀ material : HostMaterial,
      ((material.planned session.settings).render (session.filled scene).textures).record =
        .flat (exportedName material.name) placeholderColor := by
    intro material
    show (material.settled session.settings).value.map _ = _
    rw [material.settled_of_flatten hflatten, placeholderMaterial, MaterialRecord.flat,
      MaterialRecord.map]
    rfl
  rw [Registry.records, entries_filled hempty, hflatten, List.map_cons, List.map_map,
    ← map_exportedName_written, List.map_map]
  congr 1
  exact List.map_congr_left fun material _ => hplaceholder material

/-- A flattened export places no texture. -/
theorem textures_filled_of_flatten (hempty : session.registry = .empty)
    (hflatten : session.settings.materialMode = .flatten) (scene : Scene) :
    (session.filled scene).textures = session.textures := by
  have himages : imagesOf (Plan.ofScene session.settings scene).events = [] := by
    rw [Plan.imagesOf_events_ofScene, List.flatMap_eq_nil_iff]
    intro material _
    rw [material.settled_of_flatten hflatten]
    rfl
  rw [(carriesOut_filled hempty scene).textures_eq, himages, TextureDirectory.placeAll_nil]

/-- A flattened export reports no failure of a material. -/
theorem not_isMaterialFailure_of_flatten (hflatten : session.settings.materialMode = .flatten)
    {report : Report} (h : report ∈ reportsOf (Plan.ofScene session.settings scene).events) :
    ¬ report.IsMaterialFailure := by
  rcases Plan.mem_reportsOf_ofScene h with rfl | hdismissal | ⟨material, -, rfl | hsettled⟩
  · exact fun hfailure => absurd hfailure.1 (by decide)
  · exact Report.not_isMaterialFailure_of_isDismissal hdismissal
  · exact fun hfailure => nomatch hfailure.1
  · rw [material.settled_of_flatten hflatten] at hsettled
    cases hsettled

/-- What an export of the materials reports. -/
theorem reports_filled (hempty : session.registry = .empty) (scene : Scene) :
    (session.filled scene).reports =
      session.reports ++ reportsOf (Plan.ofScene session.settings scene).events := by
  rw [reports, (carriesOut_filled hempty scene).journal_eq, reportsOf_append]
  rfl

/-! ## The two modes -/

/-- Conversion exports no name that flattening does not export. -/
theorem map_name_records_filled_subset {convert flatten : Session}
    (hconvert : convert.settings.materialMode = .convert)
    (hflatten : flatten.settings.materialMode = .flatten) (hempty : convert.registry = .empty)
    (hempty' : flatten.registry = .empty) (scene : Scene) :
    (convert.filled scene).registry.records.map MaterialRecord.name ⊆
      (flatten.filled scene).registry.records.map MaterialRecord.name := by
  rw [map_name_records_filled hempty, map_name_records_filled hempty', hconvert, hflatten]
  have hnames := exportedNames_subset scene.wanted_convert_subset
  exact List.map_subset _ (List.cons_subset_cons _ hnames)

/-- **Flattening covers conversion.** Let one session convert and one flatten, with nothing exported
yet. Every name that the first exports, alone or with the background, the second exports too. Its
records are the reserved one and then, for each exported name of the materials in use, the
placeholder of this name; they are the same with the background. Any other session that flattens a
scene with the same listing of names and users, whatever else may differ, exports the same records.
Flattening places no texture and reports no failed material. -/
theorem writeMaterials_flatten_covers (convert flatten : Session)
    (hconvert : convert.settings.materialMode = .convert)
    (hflatten : flatten.settings.materialMode = .flatten) (hempty : convert.registry = .empty)
    (hempty' : flatten.registry = .empty) (scene : Scene) :
    let records := (flatten.writeMaterials scene).1
    let after := (flatten.writeMaterials scene).2
    (∀ converted ∈ [(convert.writeMaterials scene).1, (convert.writeScene scene).1.materials],
      converted.map MaterialRecord.name ⊆ records.map MaterialRecord.name) ∧
      (flatten.writeScene scene).1.materials = records ∧
      records = reservedMaterial :: (exportedNames (scene.wanted .flatten)).map
        (MaterialRecord.flat · placeholderColor) ∧
      (∀ (other : Scene) (session : Session), other.listing = scene.listing →
        session.settings.materialMode = .flatten → session.registry = .empty →
          (session.writeMaterials other).1 = records) ∧
      after.textures = flatten.textures ∧
      ∃ reports, after.reports = flatten.reports ++ reports ∧
        ∀ report ∈ reports, ¬ report.IsMaterialFailure := by
  intro records after
  have hrecords : ∀ (session : Session) (other : Scene),
      session.settings.materialMode = .flatten → session.registry = .empty →
        (session.writeMaterials other).1 = reservedMaterial ::
          (exportedNames (other.wanted .flatten)).map (MaterialRecord.flat · placeholderColor) :=
    fun session other hmode hnone => records_filled_of_flatten hnone hmode other
  have hclosed := hrecords flatten scene hflatten hempty'
  -- Writing the background changes neither the settings nor the registry.
  have hscene : (flatten.writeScene scene).1.materials = records :=
    (hrecords (flatten.writeBackground scene.world).2 scene hflatten hempty').trans hclosed.symm
  refine ⟨?_, hscene, hclosed, ?_, ?_, ?_⟩
  · intro converted hconverted
    rw [List.mem_cons, List.mem_singleton] at hconverted
    rcases hconverted with rfl | rfl
    · exact map_name_records_filled_subset hconvert hflatten hempty hempty' scene
    · let between := (convert.writeBackground scene.world).2
      have hmode : between.settings.materialMode = .convert := hconvert
      have hnone : between.registry = .empty := hempty
      exact map_name_records_filled_subset hmode hflatten hnone hempty' scene
  · intro other session hlisting hmode hnone
    rw [hrecords session other hmode hnone, Scene.exportedNames_wanted_flatten hlisting]
    exact hclosed.symm
  · exact textures_filled_of_flatten hempty' hflatten scene
  · have hreports : after.reports = _ := reports_filled hempty' scene
    exact ⟨_, hreports, fun report => not_isMaterialFailure_of_flatten hflatten⟩

end Session

/-- A chair whose tree cannot be translated, a table, another material with the table's exported
name, one that no object uses and one without users. -/
def Scene.attic : Scene where
  materials := [.oldChair, { name := "Oak Table", useNodes := false }, { name := "Oak_Table" },
    { name := "Spare" }, { name := "Dust", users := 0 }]
  objects := [{ name := "Room", materials := ["Oak_Table", "Dust", "Old Chair", "Ghost"] }]

/-- The attic after its trees, colors and objects are gone. -/
def Scene.clearedAttic : Scene where
  materials := Scene.attic.materials.map fun material =>
    { name := material.name, users := material.users, useNodes := false, diffuseColor := .scalar 0 }

/-- Flattening the attic exports the names that conversion exports and that of the spare material,
and the cleared attic gives the same list. -/
theorem Session.writeMaterials_flatten_covers_attic :
    (start {}).registry = .empty ∧ (start { materialMode := .flatten }).registry = .empty ∧
      Scene.clearedAttic.listing = Scene.attic.listing ∧
      ((start {}).writeMaterials .attic).1.map MaterialRecord.name =
        [some "default", some "Oak_Table", some "Old_Chair"] ∧
      ((start { materialMode := .flatten }).writeMaterials .attic).1.map MaterialRecord.name =
        [some "default", some "Old_Chair", some "Oak_Table", some "Spare"] ∧
      ((start {}).writeMaterials .attic).1.map MaterialRecord.name ⊆
        ((start { materialMode := .flatten }).writeMaterials .attic).1.map MaterialRecord.name ∧
      ((start { materialMode := .flatten }).writeMaterials .clearedAttic).1 =
        ((start { materialMode := .flatten }).writeMaterials .attic).1 := by
  have hlisting : Scene.clearedAttic.listing = Scene.attic.listing := rfl
  have hconverted : ((start {}).writeMaterials .attic).1.map MaterialRecord.name =
      [some "default", some "Oak_Table", some "Old_Chair"] := by decide +kernel
  have hexported : (Scene.attic.wanted .flatten).map (exportedName ·.name) =
      ["Old_Chair", "Oak_Table", "Oak_Table", "Spare"] := by decide +kernel
  have hlisted : exportedNames (Scene.attic.wanted .flatten) =
      ["Old_Chair", "Oak_Table", "Spare"] := by
    rw [exportedNames, hexported]
    decide +kernel
  obtain ⟨hnames, -, hclosed, hsame, -⟩ :=
    writeMaterials_flatten_covers (start {}) (start { materialMode := .flatten }) rfl rfl rfl rfl
      .attic
  have hflattened : ((start { materialMode := .flatten }).writeMaterials .attic).1.map
      MaterialRecord.name =
        [some "default", some "Old_Chair", some "Oak_Table", some "Spare"] := by
    rw [hclosed, hlisted]
    rfl
  exact ⟨rfl, rfl, hlisting, hconverted, hflattened, hnames _ List.mem_cons_self,
    hsame .clearedAttic (start { materialMode := .flatten }) hlisting rfl rfl⟩

end ShadingExport
