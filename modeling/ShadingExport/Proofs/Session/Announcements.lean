import ShadingExport.Proofs.Session.Recovery

/-!
# Announcements match what is written

An export announces the reserved record and every material that it writes, and reports no other
progress. A visit that is dismissed announces nothing, and neither does what becomes of a material,
since translations only remark and warn; so the announcements go along with the written materials
(`Plan.announcements_events`), whose records are what is exported.
-/

namespace ShadingExport

open Translation

/-- The announcements among reports: those of progress. -/
def announcements (reports : List Report) : List Report :=
  reports.filter fun report => report.severity = .info

/-- No chain of mixtures in the tree of a material comes back to where it started. -/
def HostMaterial.MixAcyclic (material : HostMaterial) : Prop :=
  ∀ tree graph, material.activeTree? = some tree → Graph.ofTree tree = .ok graph →
    graph.MixAcyclic

/-- No chain of mixtures in the tree of any material comes back to where it started. -/
def Scene.MixAcyclic (scene : Scene) : Prop :=
  ∀ material ∈ scene.materials, material.MixAcyclic

section Announcements

variable {reports : List Report} {events : List Event}

@[simp] theorem announcements_append (reports later : List Report) :
    announcements (reports ++ later) = announcements reports ++ announcements later :=
  List.filter_append _ _

/-- Warnings announce nothing. -/
theorem announcements_eq_nil (h : ∀ report ∈ reports, report.severity = .warning) :
    announcements reports = [] := by
  rw [announcements, List.filter_eq_nil_iff]
  intro report hreport
  rw [h report hreport]
  decide

/-! ## What announces nothing -/

/-- A remark is a warning. -/
theorem Report.IsRemark.severity_eq {report : Report} (h : report.IsRemark) :
    report.severity = .warning := by
  cases report with
  | roughDiffuse | texturedIor | zeroEmission | colorSpace => rfl
  | _ => exact h.elim

/-- A visit that is dismissed announces nothing. -/
theorem announcements_eq_nil_of_isDismissal (h : ∀ event ∈ events, event.IsDismissal) :
    announcements (reportsOf events) = [] := by
  refine announcements_eq_nil fun report hreport => ?_
  obtain ⟨event, hevent, hsome⟩ := List.mem_filterMap.mp hreport
  have hdismissal := h event hevent
  cases event with
  | trace trace => cases hsome
  | texture image => cases hsome
  | report other =>
    cases hsome
    cases report with
    | nameTaken | nameReserved | unknownMaterial => rfl
    | _ => exact hdismissal.elim

/-- **What becomes of a material announces nothing**: a translation remarks, and a failure is a
warning. -/
theorem HostMaterial.announcements_settled {material : HostMaterial}
    (hacyclic : material.MixAcyclic) (settings : Settings) :
    announcements (reportsOf (material.settled settings).events) = [] := by
  unfold settled
  cases settings.materialMode with
  | flatten => rfl
  | convert =>
    unfold translate
    cases htree : material.activeTree? with
    | none => rfl
    | some tree =>
      have hplain : (tree.surface settings.glossyMode (exportedName material.name)).Plain :=
        tree.surface_plain (fun graph => hacyclic tree graph htree) _ _
      have hremarks : announcements (reportsOf
          (tree.surface settings.glossyMode (exportedName material.name)).events) = [] :=
        announcements_eq_nil fun report hreport => (hplain.remarks report hreport).severity_eq
      dsimp only
      cases houtcome :
          (tree.surface settings.glossyMode (exportedName material.name)).outcome with
      | ok record =>
        rw [settle_of_ok _ houtcome]
        exact hremarks
      | error error =>
        rw [settle_of_error _ houtcome, reportsOf_append, announcements_append, hremarks]
        rfl

end Announcements

/-! ## Written materials -/

/-- What is written was asked for. -/
theorem mem_of_mem_written {materials : List HostMaterial} {material : HostMaterial}
    (h : material ∈ written materials) : material ∈ materials :=
  List.mem_of_find?_eq_some (firstNamed?_of_mem_written h)

/-- What an export asks for are materials of the scene. -/
theorem Scene.wanted_subset (scene : Scene) (mode : MaterialMode) :
    scene.wanted mode ⊆ scene.materials := by
  intro material hmaterial
  have hvisited : material ∈ scene.visited mode := List.mem_of_mem_filter hmaterial
  cases mode with
  | flatten => exact hvisited
  | convert =>
    obtain ⟨object, -, hobject⟩ := List.mem_flatMap.mp hvisited
    obtain ⟨reference, -, hreference⟩ := List.mem_filterMap.mp hobject
    exact List.mem_of_find?_eq_some hreference

/-! ## What is planned to be announced -/

namespace Plan

variable {settings : Settings} {scene : Scene}

/-- The plan of a scene announces the reserved record, then each material that is written, after
what becomes of it. -/
theorem announcements_events (settings : Settings) (scene : Scene) :
    announcements (reportsOf (Plan.ofScene settings scene).events) =
      .writingDefault :: (written (scene.wanted settings.materialMode)).flatMap fun material =>
        announcements (reportsOf (material.settled settings).events) ++
          [.writing material.name] := by
  refine (ofScene_induction (motive := fun seen plan => plan.Lists settings seen ∧
    announcements (reportsOf plan.events) =
      .writingDefault :: (written seen).flatMap fun material =>
        announcements (reportsOf (material.settled settings).events) ++
          [.writing material.name]) ⟨rfl, rfl⟩ ?_ scene).2
  rintro seen plan visit ⟨hlists, hannouncements⟩
  refine ⟨hlists.visit visit, ?_⟩
  rcases hlists.visit_cases visit with ⟨events, hevents, hvisit, hwritten⟩ |
    ⟨material, hwritten, hvisit⟩
  · -- A visit that is dismissed changes neither side.
    rw [hvisit, hwritten, Plan.perform, reportsOf_append, announcements_append, hannouncements,
      announcements_eq_nil_of_isDismissal hevents, List.append_nil]
  · rw [hvisit, hwritten, List.flatMap_append, List.flatMap_singleton]
    simp only [reportsOf_append, announcements_append, reportsOf_report, hannouncements]
    rw [List.append_assoc]
    rfl

/-- Without mixtures that contain themselves, exactly the written materials are announced. -/
theorem announcements_events_of_mixAcyclic (hacyclic : scene.MixAcyclic) :
    announcements (reportsOf (Plan.ofScene settings scene).events) =
      .writingDefault :: (written (scene.wanted settings.materialMode)).map (.writing ·.name) := by
  have hquiet : ∀ material ∈ written (scene.wanted settings.materialMode),
      announcements (reportsOf (material.settled settings).events) ++ [.writing material.name] =
        [.writing material.name] := by
    intro material hmaterial
    have hmem : material ∈ scene.materials := scene.wanted_subset _ (mem_of_mem_written hmaterial)
    rw [HostMaterial.announcements_settled (hacyclic material hmem), List.nil_append]
  rw [announcements_events, List.flatMap_congr hquiet, List.map_eq_flatMap]

end Plan

namespace Session

variable {session : Session}

/-- **Announcements match what is written.** If the registry is empty and no material has mixtures
that contain themselves, the announcements of an export are the one about the reserved record, which
comes first, and one for each record after it, in the same order and with the name of the host
material that the record is named after: the first wanted material of this name. -/
theorem writeMaterials_announces (session : Session) (hempty : session.registry = .empty)
    (scene : Scene) (hacyclic : scene.MixAcyclic) :
    let records := (session.writeMaterials scene).1
    let after := (session.writeMaterials scene).2
    let hosts := (written (scene.wanted session.settings.materialMode)).map HostMaterial.name
    ∃ reports later, after.reports = session.reports ++ reports ∧
      records = reservedMaterial :: later ∧
      (announcements reports).map Report.message =
        "Writing default lambertian material" :: hosts.map (s!"Writing material: {·}") ∧
      List.Forall₂ (fun record host => record.name = some (exportedName host)) later hosts := by
  rw [writeMaterials_eq]
  dsimp only
  have hreports : (session.filled scene).reports =
      session.reports ++ reportsOf (Plan.ofScene session.settings scene).events := by
    rw [reports, (carriesOut_filled hempty scene).journal_eq, reportsOf_append]
    rfl
  have hentries := entries_filled hempty scene
  refine ⟨_, _, hreports, congrArg (List.map RegistryEntry.record) hentries, ?_, ?_⟩
  · rw [Plan.announcements_events_of_mixAcyclic hacyclic, List.map_cons, List.map_map,
      List.map_map]
    rfl
  · rw [List.map_map, List.forall₂_map_left_iff, List.forall₂_map_right_iff, List.forall₂_same]
    intro material _
    show ((material.settled session.settings).value.map _).name = _
    rw [MaterialRecord.name_map]
    exact (material.settled_spec session.settings).1

end Session

/-- A flat wall. -/
def HostMaterial.wall : HostMaterial where
  name := "Red Wall"
  useNodes := false

/-- A wall that has the exported name of the other. -/
def HostMaterial.otherWall : HostMaterial where
  name := "Red_Wall"

/-- Two materials that share an exported name, a chair that cannot be translated, a reference to no
material, and a second use of the first wall. -/
def Scene.parlour : Scene where
  materials := [.wall, .otherWall, .oldChair]
  objects := [{ name := "Room", materials := ["Red Wall", "Red_Wall", "Old Chair"] },
    { name := "Stage", materials := ["Ghost", "Red Wall"] }]

/-- In the parlour the first wall and the chair are written, and nothing else is announced. -/
theorem Session.writeMaterials_announces_parlour :
    (start {}).registry = .empty ∧ Scene.parlour.MixAcyclic ∧
      ∃ reports wall chair,
        ((start {}).writeMaterials .parlour).2.reports = (start {}).reports ++ reports ∧
        ((start {}).writeMaterials .parlour).1 = [reservedMaterial, wall, chair] ∧
        (announcements reports).map Report.message = ["Writing default lambertian material",
          "Writing material: Red Wall", "Writing material: Old Chair"] ∧
        wall.name = some "Red_Wall" ∧ chair.name = some "Old_Chair" := by
  have hempty : (start {}).registry = .empty := rfl
  have hacyclic : Scene.parlour.MixAcyclic := by
    intro material hmaterial tree graph htree hgraph
    rw [Scene.parlour, List.mem_cons, List.mem_cons, List.mem_singleton] at hmaterial
    rcases hmaterial with rfl | rfl | rfl
    · cases htree
    · cases htree
    · cases htree
      cases hgraph
      exact Graph.mixAcyclic_of_sides (by decide +kernel)
  have hwallName : exportedName HostMaterial.wall.name = "Red_Wall" := by decide +kernel
  have hotherName : exportedName HostMaterial.otherWall.name = "Red_Wall" := by decide +kernel
  have hchairName : exportedName HostMaterial.oldChair.name = "Old_Chair" := by decide +kernel
  have hwritten : written (Scene.parlour.wanted .convert) = [.wall, .oldChair] := by
    have hnames : exportedNames [.wall, .otherWall, .oldChair, .wall] =
        ["Red_Wall", "Old_Chair"] := by
      rw [exportedNames, List.map_cons, List.map_cons, List.map_cons, List.map_singleton,
        hwallName, hotherName, hchairName]
      decide +kernel
    rw [show Scene.parlour.wanted .convert = [.wall, .otherWall, .oldChair, .wall] from rfl,
      written, hnames]
    simp [firstNamed?, hwallName, hotherName, hchairName]
  obtain ⟨reports, later, hreports, hrecords, hannounced, hlater⟩ :=
    writeMaterials_announces (start {}) hempty .parlour hacyclic
  rw [show (start {}).settings.materialMode = .convert from rfl, hwritten] at hannounced hlater
  refine ⟨hempty, hacyclic, reports, ?_⟩
  cases hlater with
  | @cons wall _ _ _ hwall hlater =>
    cases hlater with
    | @cons chair _ _ _ hchair hlater =>
      cases hlater
      rw [hwallName] at hwall
      rw [hchairName] at hchair
      exact ⟨wall, chair, hreports, hrecords, hannounced, hwall, hchair⟩

end ShadingExport
