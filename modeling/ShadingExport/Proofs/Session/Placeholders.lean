import ShadingExport.Proofs.Session.Recovery

/-!
# Placeholders and warnings

The color of placeholders stands in for what cannot be written of a material
(`Session.Replaces`): for a tree that fails, or, where no tree counts, for a color that is none. The
record is the same in both cases (`Session.translated_of_replaces`), but only a tree is told of: its
warning names the material (`Session.exists_warning_of_failsOn`), while nothing is ever reported
without a tree (`HostMaterial.events_translate_of_activeTree?_eq_none`). So a placeholder is silent
exactly for a material without a tree whose color is a matrix
(`Session.writeTranslation_placeholders`). The same literal as the color of a world is reported
(`Session.reports_writeBackground_of_color?_eq_none`).
-/

namespace ShadingExport

open Translation

/-- The report is a warning that has a name in its text. -/
structure Report.WarnsAbout (report : Report) (name : String) : Prop where
  /-- It is a warning. -/
  severity_eq : report.severity = .warning
  /-- Its text has the name. -/
  isInfix_message : name.toList <:+: report.message.toList

/-- The warning about a failed material has its name. -/
theorem Report.warnsAbout_materialFailed (name : String) (error : TranslationError) :
    (Report.materialFailed name error).WarnsAbout name := by
  refine ⟨rfl, ?_⟩
  show _ <:+: ("Export of material '" ++ name ++ _ ++ _ ++ _ ++ _).toList
  simp only [String.toList_append, List.append_assoc]
  exact List.infix_append' _ _ _

/-- Nothing is reported of a material without a tree that counts. -/
theorem HostMaterial.events_translate_of_activeTree?_eq_none {material : HostMaterial}
    (hnone : material.activeTree? = none) (mode : GlossyMode) :
    (material.translate mode).events = [] := by
  rw [translate, hnone]

namespace Session

variable {session : Session} {material : HostMaterial}

/-- The color of placeholders stands in for what a session cannot write of a material. -/
inductive Replaces (session : Session) (material : HostMaterial) : Prop where
  /-- Its tree counts and fails. -/
  | tree {tree : NodeTree} {error : TranslationError} (htree : material.activeTree? = some tree)
    (hfails : session.FailsOn tree (exportedName material.name) error)
  /-- No tree counts, and its color is none. -/
  | color (hnone : material.activeTree? = none) (hcolor : material.diffuseColor.color? = none)

/-- Without a tree that counts, it is a matrix that is replaced. -/
theorem replaces_iff_of_activeTree?_eq_none (hnone : material.activeTree? = none) :
    session.Replaces material ↔ ∃ value, material.diffuseColor = .matrix value := by
  rw [← Literal.color?_eq_none_iff]
  constructor
  · rintro (⟨htree, -⟩ | ⟨-, hcolor⟩)
    · cases hnone.symm.trans htree
    · exact hcolor
  · exact .color hnone

/-- What is replaced becomes a placeholder. -/
theorem translated_of_replaces (h : session.Replaces material) :
    session.translated material = placeholderMaterial material.name := by
  unfold translated HostMaterial.translate
  cases h with
  | tree htree hfails =>
    simp only [htree, settle_of_error _ hfails.outcome]
    rfl
  | color hnone hcolor =>
    simp only [hnone, HostMaterial.flatRecord, hcolor]
    rfl

/-- A warning that names the material tells of its failing tree. -/
theorem exists_warning_of_failsOn {tree : NodeTree} {error : TranslationError}
    (htree : material.activeTree? = some tree)
    (hfails : session.FailsOn tree (exportedName material.name) error) :
    ∃ report ∈ reportsOf (material.translate session.settings.glossyMode).events,
      report.WarnsAbout material.name := by
  refine ⟨.materialFailed material.name error, ?_, Report.warnsAbout_materialFailed _ _⟩
  rw [HostMaterial.translate]
  simp only [htree, settle_of_error _ hfails.outcome, reportsOf_append, reportsOf_report]
  exact List.mem_append_right _ List.mem_cons_self

/-- **Placeholders are told of only where they stand in for a tree**: whatever the session, let a
material be written. If the color of placeholders stands in for what cannot be written of it, its
record is the placeholder of its name, and a warning names it exactly if it has a tree that counts.
Without such a tree nothing is reported at all, and the placeholder stands in for a matrix. -/
theorem writeTranslation_placeholders
    (hwritten : (session.writeTranslation material).1 = true) :
    let after := (session.writeTranslation material).2
    ∃ record reports, after.reports = session.reports ++ reports ∧
      after.registry.entries = session.registry.entries ++
        [⟨exportedName material.name, some material.name, record⟩] ∧
      (session.Replaces material → record = placeholderMaterial material.name ∧
        ((∃ report ∈ reports, report.WarnsAbout material.name) ↔
          ∃ tree, material.activeTree? = some tree)) ∧
      (material.activeTree? = none → reports = [] ∧
        (session.Replaces material ↔ ∃ value, material.diffuseColor = .matrix value)) := by
  -- A material is written only if its exported name was free.
  have hfree : exportedName material.name ∉ session.registry.names := by
    intro htaken
    obtain ⟨event, -, hrefused⟩ := writeTranslation_of_mem_names htaken
    rw [hrefused] at hwritten
    cases hwritten
  have hsilent := material.events_translate_of_activeTree?_eq_none
  rw [writeTranslation_of_notMem_names hfree]
  refine ⟨session.translated material, _, session.reports_perform _, rfl, fun hreplaces => ?_,
    fun hnone => ?_⟩
  · refine ⟨translated_of_replaces hreplaces, ?_⟩
    cases hreplaces with
    | tree htree hfails => exact iff_of_true (exists_warning_of_failsOn htree hfails) ⟨_, htree⟩
    | color hnone _ =>
      rw [hsilent hnone, hnone]
      exact iff_of_false (by rintro ⟨_, ⟨⟩, -⟩) (by rintro ⟨_, ⟨⟩⟩)
  · rw [hsilent hnone]
    exact ⟨rfl, replaces_iff_of_activeTree?_eq_none hnone⟩

/-- A world without a tree that counts tells of a color that is none. -/
theorem reports_writeBackground_of_color?_eq_none {world : World} (hnone : world.activeTree? = none)
    (hcolor : world.color.color? = none) :
    (session.writeBackground (some world)).2.reports =
      session.reports ++ [.worldFailed (.invalidLiteral "world color" .color)] := by
  have hfails : world.background = fail (.invalidLiteral "world color" .color) := by
    simp only [World.background, hnone, hcolor]
  rw [writeBackground, translateWorld, hfails]
  exact session.reports_perform _

end Session

/-- A plain material whose color is a matrix. -/
def HostMaterial.oddChalk : HostMaterial where
  name := "Chalk"
  useNodes := false
  diffuseColor := .matrix ⟨⟨1, 0, 0, 0⟩, ⟨0, 1, 0, 0⟩, ⟨0, 0, 1, 0⟩, ⟨0, 0, 0, 1⟩⟩

namespace Session

/-- The chair is replaced for its tree, and so it is told of. -/
theorem writeTranslation_placeholders_oldChair :
    ((start {}).writeTranslation .oldChair).1 = true ∧ (start {}).Replaces .oldChair ∧
      ∃ report ∈ ((start {}).writeTranslation .oldChair).2.reports,
        report.WarnsAbout "Old Chair" := by
  have hwritten : ((start {}).writeTranslation .oldChair).1 = true := rfl
  have hreplaces : (start {}).Replaces .oldChair := .tree rfl (.translation rfl rfl rfl rfl)
  obtain ⟨record, reports, hreports, -, hplaceholder, -⟩ := writeTranslation_placeholders hwritten
  refine ⟨hwritten, hreplaces, ?_⟩
  rw [hreports]
  exact (hplaceholder hreplaces).2.mpr ⟨_, rfl⟩

/-- The chalk is replaced for its color, and nothing tells of it; a world of that color is told
of. -/
theorem writeTranslation_placeholders_oddChalk :
    let after := ((start {}).writeTranslation .oddChalk).2
    ((start {}).writeTranslation .oddChalk).1 = true ∧ (start {}).Replaces .oddChalk ∧
      after.registry.entries =
        [⟨"Chalk", some "Chalk", placeholderMaterial "Chalk"⟩] ∧
      after.reports = [] ∧
      let world : World := { useNodes := false, color := HostMaterial.oddChalk.diffuseColor }
      ∃ report, ((start {}).writeBackground (some world)).2.reports = [report] ∧
        report.severity = .warning := by
  have hname : exportedName "Chalk" = "Chalk" := by decide +kernel
  refine ⟨rfl, .color rfl rfl, ?_, rfl, ?_⟩
  · show [RegistryEntry.mk (exportedName "Chalk") (some "Chalk") (placeholderMaterial "Chalk")] = _
    rw [hname]
  · exact ⟨_, reports_writeBackground_of_color?_eq_none rfl rfl, rfl⟩

end Session

end ShadingExport
