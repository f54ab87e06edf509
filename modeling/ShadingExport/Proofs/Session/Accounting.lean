import ShadingExport.Proofs.DistinctKeys
import ShadingExport.Proofs.Session.ExactlyOnce
import ShadingExport.Proofs.Session.Rendering
import ShadingExport.Proofs.Session.Ledger

/-!
# No material is lost silently

Materials may share an exported name, and only the first of them is written. An export accounts for
every wanted material that it visits (`Session.Accounts`): the record under its exported name came
from a host material of its name, or the visit leaves one warning that says who has the exported
name. This is settled by the visit, since the registry only grows from one visit to the next
(`Session.entries_isPrefix_foldl_visit`). A material that was written before is recognized by its
name in the host, since every entry has the exported name of its host (`Registry.NamedByHosts`).
-/

namespace ShadingExport

open Translation

/-- The report is a warning with a text. -/
structure Report.Warns (report : Report) (text : String) : Prop where
  /-- It is a warning. -/
  severity_eq : report.severity = .warning
  /-- It has the text. -/
  message_eq : report.message = text

/-- Every entry that comes from the host has the exported name of its host material. -/
def Registry.NamedByHosts (registry : Registry) : Prop :=
  ∀ entry ∈ registry.entries, ∀ host, entry.host = some host → entry.name = exportedName host

namespace Session

variable {session : Session} {material : HostMaterial}

/-! ## What a visit does -/

/-- A wanted material whose name is taken leaves a refusal. -/
theorem visit_of_find?_eq_some (hwanted : material.isWanted = true) {entry : RegistryEntry}
    (htaken : session.registry.find? (exportedName material.name) = some entry) :
    session.visit (.material material) = session.perform [material.refusal entry.host] := by
  rw [visit_of_isWanted hwanted, accept_of_find?_eq_some htaken]
  rfl

/-- A wanted material whose name is free is registered. -/
theorem entries_visit_of_notMem_names (hwanted : material.isWanted = true)
    (hfree : exportedName material.name ∉ session.registry.names) :
    (session.visit (.material material)).registry.entries =
      session.registry.entries ++
        [session.entryOf material (material.settled session.settings)] := by
  rw [visit_of_isWanted hwanted, accept_of_notMem_names hfree]
  rfl

/-- A visit leaves the registry as it is, or adds the entry of a material. -/
theorem entries_visit_cases (session : Session) (visit : Visit) :
    (session.visit visit).registry.entries = session.registry.entries ∨
      ∃ material, (session.visit visit).registry.entries = session.registry.entries ++
        [session.entryOf material (material.settled session.settings)] := by
  cases session.effect (.visit visit) with
  | accepts hattempted _ hstep =>
    obtain ⟨material, -, rfl⟩ := Option.map_eq_some_iff.mp hattempted
    exact .inr ⟨material, congrArg (·.2.registry.entries) hstep⟩
  | refuses _ _ _ hstep => exact .inl (congrArg (·.2.registry.entries) hstep)
  | performs _ _ hstep => exact .inl (congrArg (·.2.registry.entries) hstep)
  | drains hdrain => cases hdrain

/-! ## What visits keep -/

/-- Visits only add entries. -/
theorem entries_isPrefix_foldl_visit (session : Session) (visits : List Visit) :
    session.registry.entries <+: (visits.foldl visit session).registry.entries := by
  induction visits generalizing session with
  | nil => exact List.prefix_rfl
  | cons visit visits ih =>
    have hvisit : session.registry.entries <+: (session.visit visit).registry.entries := by
      rcases session.entries_visit_cases visit with hsame | ⟨material, hadded⟩
      · rw [hsame]
      · rw [hadded]
        exact List.prefix_append _ _
    exact hvisit.trans (ih (session.visit visit))

/-- An entry that is found stays the entry of its name. -/
theorem find?_foldl_visit {name : String} {entry : RegistryEntry}
    (h : session.registry.find? name = some entry) (visits : List Visit) :
    (visits.foldl visit session).registry.find? name = some entry :=
  (session.entries_isPrefix_foldl_visit visits).find?_eq_some h

/-- Visits name entries by their hosts. -/
theorem namedByHosts_foldl_visit (h : session.registry.NamedByHosts) (visits : List Visit) :
    (visits.foldl visit session).registry.NamedByHosts := by
  induction visits generalizing session with
  | nil => exact h
  | cons visit visits ih =>
    refine ih ?_
    rcases session.entries_visit_cases visit with hsame | ⟨material, hadded⟩
    · rw [Registry.NamedByHosts, hsame]
      exact h
    · rw [Registry.NamedByHosts, hadded, List.forall_mem_append, List.forall_mem_singleton]
      refine ⟨h, ?_⟩
      rintro _ ⟨⟩
      rfl

section Export

variable (hempty : session.registry = .empty) (visits : List Visit)

include hempty

/-- In the course of an export, entries are named by their hosts. -/
theorem namedByHosts_foldl_visit_begin :
    (visits.foldl visit session.begin).registry.NamedByHosts := by
  refine namedByHosts_foldl_visit ?_ visits
  have hbegin : session.begin.registry.entries = [⟨reservedName, none, reservedMaterial⟩] := by
    rw [begin, register, Registry.register, registry_perform, hempty]
    rfl
  rw [Registry.NamedByHosts, hbegin, List.forall_mem_singleton]
  intro host hhost
  cases hhost

/-- In the course of an export, no name is registered twice. -/
theorem nodup_names_foldl_visit_begin :
    (visits.foldl visit session.begin).registry.names.Nodup := by
  have hkeeps := (Ledger.keeps_opened hempty).run (.begin :: visits.map Step.visit)
  have hsession : ((Ledger.opened session).run (.begin :: visits.map Step.visit)).session =
      visits.foldl visit session.begin := by
    rw [Ledger.session_run, List.foldl_cons, List.foldl_map]
    rfl
  rw [← hsession, hkeeps.names_eq]
  exact hkeeps.nodup

/-- A host material that was written is found under its exported name. -/
theorem find?_eq_some_of_written {entry : RegistryEntry} {host : String}
    (hentry : entry ∈ (visits.foldl visit session.begin).registry.entries)
    (hhost : entry.host = some host) :
    (visits.foldl visit session.begin).registry.find? (exportedName host) = some entry := by
  have hname := namedByHosts_foldl_visit_begin hempty visits entry hentry host hhost
  have hnodup := nodup_names_foldl_visit_begin hempty visits
  rw [← hname]
  exact find?_eq_some_of_nodup_map hnodup hentry

end Export

/-! ## Every visit is accounted for -/

/-- The final session accounts for a material of a name and an exported name, which was visited
between two sessions: the entry of the exported name comes from a host material of the name, or the
one report of the visit is a warning that the exported name is reserved, or which other material has
it. -/
inductive Accounts (final earlier after : Session) (name exported : String) : Prop where
  /-- A material of the name is exported. -/
  | exported {entry : RegistryEntry} (hentry : final.registry.find? exported = some entry)
    (hhost : entry.host = some name)
  /-- The exported name is reserved. -/
  | reserved {entry : RegistryEntry} {warning : Report}
    (hentry : final.registry.find? exported = some entry) (hhost : entry.host = none)
    (hreports : after.reports = earlier.reports ++ [warning])
    (hwarns : warning.Warns
      s!"Material '{name}' is exported as '{exported}', which is reserved. Skipping it.")
  /-- The exported name belongs to another material. -/
  | taken {entry : RegistryEntry} {owner : String} {warning : Report}
    (hentry : final.registry.find? exported = some entry) (hhost : entry.host = some owner)
    (howner : owner ≠ name) (hreports : after.reports = earlier.reports ++ [warning])
    (hwarns : warning.Warns (s!"Material '{name}' is exported as '{exported}', "
      ++ s!"which material '{owner}' already uses. Skipping it."))

/-- Later visits do not change who has a name. -/
theorem Accounts.foldl_visit {final earlier after : Session} {name exported : String}
    (h : final.Accounts earlier after name exported) (visits : List Visit) :
    (visits.foldl visit final).Accounts earlier after name exported := by
  cases h with
  | exported hentry hhost => exact .exported (find?_foldl_visit hentry visits) hhost
  | reserved hentry hhost hreports hwarns =>
    exact .reserved (find?_foldl_visit hentry visits) hhost hreports hwarns
  | taken hentry hhost howner hreports hwarns =>
    exact .taken (find?_foldl_visit hentry visits) hhost howner hreports hwarns

/-- A visit accounts for its material. -/
theorem accounts_visit (session : Session) (hwanted : material.isWanted = true) :
    let after := session.visit (.material material)
    after.Accounts session after material.name (exportedName material.name) := by
  intro after
  by_cases htaken : exportedName material.name ∈ session.registry.names
  · obtain ⟨entry, hentry⟩ := Registry.exists_find?_of_mem_names htaken
    have hafter : after = session.perform [material.refusal entry.host] :=
      visit_of_find?_eq_some hwanted hentry
    have hfound : after.registry.find? (exportedName material.name) = some entry := by
      rw [hafter]
      exact hentry
    have hreports := session.reports_perform [material.refusal entry.host]
    rw [← hafter] at hreports
    cases hhost : entry.host with
    | none =>
      rw [hhost] at hreports
      exact .reserved hfound hhost hreports ⟨rfl, rfl⟩
    | some owner =>
      by_cases howner : owner = material.name
      · rw [howner] at hhost
        exact .exported hfound hhost
      · have hrefusal : material.refusal (some owner) =
            .report (.nameTaken material.name (exportedName material.name) owner) :=
          if_neg howner
        rw [hhost, hrefusal] at hreports
        exact .taken hfound hhost howner hreports ⟨rfl, rfl⟩
  · let entry := session.entryOf material (material.settled session.settings)
    have hentry : after.registry.find? (exportedName material.name) = some entry := by
      have hnone : session.registry.find? (exportedName material.name) = none :=
        Registry.find?_eq_none_iff.mpr htaken
      rw [Registry.find?] at hnone ⊢
      rw [entries_visit_of_notMem_names hwanted htaken, List.find?_append, hnone, Option.none_or]
      exact List.find?_cons_of_pos (beq_self_eq_true (exportedName material.name))
    exact .exported hentry rfl

/-- A visit of a material whose name in the host was written before reports nothing and asks for no
image. -/
theorem visit_of_written (hempty : session.registry = .empty) (visits : List Visit)
    {entry : RegistryEntry}
    (hentry : entry ∈ (visits.foldl visit session.begin).registry.entries)
    (hhost : entry.host = some material.name) :
    let earlier := visits.foldl visit session.begin
    let after := earlier.visit (.material material)
    after.reports = earlier.reports ∧ after.textures = earlier.textures := by
  intro earlier after
  by_cases hwanted : material.isWanted = true
  · have hfound : earlier.registry.find? (exportedName material.name) = some entry :=
      find?_eq_some_of_written hempty visits hentry hhost
    have hrefusal : material.refusal entry.host =
        .trace (.alreadyExported (exportedName material.name)) := by
      rw [hhost]
      exact if_pos rfl
    have hafter : after = earlier.perform [material.refusal entry.host] :=
      visit_of_find?_eq_some hwanted hfound
    -- A second visit leaves a trace, which is no report.
    rw [hafter, hrefusal, reports_perform]
    exact ⟨List.append_nil _, rfl⟩
  · have hafter : after = earlier := if_neg hwanted
    rw [hafter]
    exact ⟨rfl, rfl⟩

/-- **No material is lost silently.** If the registry is empty, then for every visit of an export,
with the sessions before and after it: the registry at the end of the export accounts for the
material, if it is in use and not the host's own; a reference to a material that the scene does not
have leaves one warning, with the object and the reference; and if a material of this name in the
host was written before, nothing is reported and no texture is placed. The registry at the end holds
the records that are exported, each with the name that it is registered under. -/
theorem writeMaterials_accounts (session : Session) (hempty : session.registry = .empty)
    (scene : Scene) {before later : List Visit} {visit : Visit}
    (hvisits : scene.visits session.settings.materialMode = before ++ visit :: later) :
    let earlier := before.foldl Session.visit session.begin
    let after := earlier.visit visit
    let final := session.filled scene
    (session.writeMaterials scene).1 = final.registry.records ∧
      (∀ entry ∈ final.registry.entries, entry.record.name = some entry.name) ∧
      (∀ material, visit = .material material → 0 < material.users →
        material.name ≠ "Dots Stroke" →
          final.Accounts earlier after material.name (exportedName material.name)) ∧
      (∀ object reference, visit = scene.visitOf object reference →
        scene.material? reference = none →
          ∃ warning : Report, after.reports = earlier.reports ++ [warning] ∧
            warning.Warns
              s!"Object '{object.name}' uses unknown material '{reference}'. Skipping it.") ∧
      ∀ material, visit = .material material →
        (∃ entry ∈ earlier.registry.entries, entry.host = some material.name) →
          after.reports = earlier.reports ∧ after.textures = earlier.textures := by
  intro earlier after final
  have hfinal : final = later.foldl Session.visit after := by
    show (scene.visits session.settings.materialMode).foldl Session.visit session.begin = _
    rw [hvisits, List.foldl_append, List.foldl_cons]
  refine ⟨rfl, fun entry => record_name_of_mem_entries_filled hempty scene, ?_, ?_, ?_⟩
  · rintro material rfl husers hname
    have hwanted : material.isWanted = true := by
      simp [HostMaterial.isWanted, HostMaterial.ignoredName, husers, hname]
    rw [hfinal]
    exact (earlier.accounts_visit hwanted).foldl_visit later
  · intro object reference hvisit hunknown
    have hafter : after =
        earlier.perform [.report (.unknownMaterial object.name reference)] := by
      show earlier.visit visit = _
      rw [hvisit, Scene.visitOf, hunknown]
      rfl
    rw [hafter, reports_perform]
    exact ⟨_, rfl, rfl, rfl⟩
  · rintro material rfl ⟨entry, hentry, hhost⟩
    exact visit_of_written hempty before hentry hhost

end Session

/-- A single material, which has the reserved name. -/
def Scene.impostor : Scene where
  materials := [{ name := "default" }]

/-- The impostor leaves one warning, which says that its name is reserved. -/
theorem Session.writeMaterials_accounts_impostor :
    let session := start { materialMode := .flatten }
    session.registry = .empty ∧
      Scene.impostor.visits .flatten = [] ++ [.material { name := "default" }] ∧
        ∃ warning : Report, (session.filled .impostor).reports = [.writingDefault, warning] ∧
          warning.Warns
            "Material 'default' is exported as 'default', which is reserved. Skipping it." := by
  intro session
  have hvisits : Scene.impostor.visits .flatten = [] ++ [.material { name := "default" }] := rfl
  have hexported : exportedName "default" = "default" := by decide +kernel
  obtain ⟨-, -, haccounts, -⟩ := writeMaterials_accounts session rfl .impostor hvisits
  have haccounts := haccounts { name := "default" } rfl (by decide) (by decide)
  rw [hexported] at haccounts
  have hhost : ((session.filled .impostor).registry.find? "default").map RegistryEntry.host =
      some none := by decide +kernel
  refine ⟨rfl, hvisits, ?_⟩
  cases haccounts with
  | exported hentry howner =>
    rw [hentry, Option.map_some, howner] at hhost
    cases hhost
  | reserved _ _ hreports hwarns => exact ⟨_, hreports, hwarns⟩
  | taken hentry howner =>
    rw [hentry, Option.map_some, howner] at hhost
    cases hhost

end ShadingExport
