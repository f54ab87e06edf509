import Mathlib.Data.List.DropRight
import ShadingExport.Proofs.Session.Accounting

/-!
# Who has the reserved name

Every export has one record under the reserved name. It is the reserved record unless a material of
this exported name was converted since the last export, and it comes first unless any material was.
This rests on two things: every call keeps a registry of distinct names that its records have
(`Registry.NamesRecords`), and an export adds to what is registered (`Session.records_isPrefix`).
Which names are registered when an export begins is read off the calls since the last one
(`Session.mem_names_foldl_call`).
-/

namespace ShadingExport

open Translation

/-! ## Registries that name their records -/

/-- No name is registered twice, and every record has the name that it is registered under. -/
structure Registry.NamesRecords (registry : Registry) : Prop where
  /-- The names are distinct. -/
  nodup : registry.names.Nodup
  /-- The records have them. -/
  name_eq : ∀ entry ∈ registry.entries, entry.record.name = some entry.name

namespace Registry.NamesRecords

variable {registry : Registry}

theorem empty : Registry.empty.NamesRecords := ⟨List.nodup_nil, List.forall_mem_nil _⟩

/-- A record can be added under its own name, if that is free. -/
theorem concat (h : registry.NamesRecords) {entry : RegistryEntry}
    (hfree : entry.name ∉ registry.names) (hname : entry.record.name = some entry.name) :
    (⟨registry.entries ++ [entry]⟩ : Registry).NamesRecords where
  nodup := by
    rw [names, List.map_append, List.map_singleton, ← List.concat_eq_append]
    exact h.nodup.concat hfree
  name_eq := by
    rw [List.forall_mem_append, List.forall_mem_singleton]
    exact ⟨h.name_eq, hname⟩

theorem map_name_records (h : registry.NamesRecords) :
    registry.records.map MaterialRecord.name = registry.names.map some := by
  rw [records, names, List.map_map, List.map_map]
  exact List.map_congr_left h.name_eq

theorem nodup_map_name_records (h : registry.NamesRecords) :
    (registry.records.map MaterialRecord.name).Nodup := by
  rw [h.map_name_records]
  exact h.nodup.map fun _ _ => Option.some.inj

end Registry.NamesRecords

/-! ## What calls keep -/

/-- Only a call that registers a record from outside has such a step. -/
theorem Call.eq_register_of_mem_steps {call : Call} {mode : MaterialMode} {entry : RegistryEntry}
    (h : .register entry ∈ call.steps mode) : call = .register entry := by
  cases call with
  | register other =>
    cases List.mem_singleton.mp h
    rfl
  | convert material => cases List.mem_singleton.mp h
  | background world => cases List.mem_singleton.mp h
  | materials scene =>
    rw [steps, Scene.fillingSteps, List.mem_append, List.mem_cons, List.mem_map,
      List.mem_singleton] at h
    rcases h with (h | ⟨visit, -, h⟩) | h <;> cases h

namespace Session

variable {session : Session}

/-- A record that comes from a material or is built in has the name under which it is going to be
registered. -/
theorem name_of_attempted? {step : Step} {entry : RegistryEntry}
    (hattempted : session.attempted? step = some entry) (hown : step ≠ .register entry) :
    entry.record.name = some entry.name := by
  cases step with
  | register other =>
    cases hattempted
    exact absurd rfl hown
  | convert material =>
    cases hattempted
    show ((material.translate session.settings.glossyMode).value.map _).name = _
    rw [MaterialRecord.name_map]
    exact (material.translate_spec session.settings.glossyMode).1
  | begin =>
    cases hattempted
    rfl
  | visit visit =>
    obtain ⟨material, -, rfl⟩ := Option.map_eq_some_iff.mp hattempted
    show ((material.settled session.settings).value.map _).name = _
    rw [MaterialRecord.name_map]
    exact (material.settled_spec session.settings).1
  | background world => cases hattempted
  | drain => cases hattempted

/-- **A step keeps the names of records**, unless it registers a record from outside. -/
theorem namesRecords_step (h : session.registry.NamesRecords) {step : Step}
    (hown : ∀ entry, step ≠ .register entry) :
    (session.step step).2.registry.NamesRecords := by
  cases session.effect step with
  | accepts hattempted hfree hstep =>
    -- Only what is registered from outside may have another name.
    rw [hstep]
    exact h.concat hfree (name_of_attempted? hattempted (hown _))
  | refuses _ _ _ hstep =>
    rw [hstep]
    exact h
  | performs _ _ hstep =>
    rw [hstep]
    exact h
  | drains hdrain =>
    rw [hdrain]
    exact .empty

/-- Steps in a row keep the names of records. -/
theorem namesRecords_run {ledger : Ledger} (h : ledger.session.registry.NamesRecords)
    {steps : List Step} (hown : ∀ entry, .register entry ∉ steps) :
    (ledger.run steps).session.registry.NamesRecords := by
  induction steps generalizing ledger with
  | nil => exact h
  | cons step steps ih =>
    refine ih ?_ fun entry hmem => hown entry (List.mem_cons_of_mem _ hmem)
    rw [Ledger.session_step]
    refine namesRecords_step h fun entry hstep => hown entry ?_
    rw [hstep]
    exact List.mem_cons_self

/-- **Calls keep the names of records.** -/
theorem namesRecords_foldl_call (h : session.registry.NamesRecords) {calls : List Call}
    (hown : ∀ entry, .register entry ∉ calls) :
    (calls.foldl call session).registry.NamesRecords := by
  have hrun := (Ledger.opened session).session_run_flatMap_steps calls
  rw [show calls.foldl call session = _ from hrun.symm]
  refine namesRecords_run h fun entry hmem => ?_
  obtain ⟨call, hcall, hstep⟩ := List.mem_flatMap.mp hmem
  rw [Call.eq_register_of_mem_steps hstep] at hcall
  exact hown entry hcall

/-- In the middle of an export the records have their names, too. -/
theorem namesRecords_filled (h : session.registry.NamesRecords) (scene : Scene) :
    (session.filled scene).registry.NamesRecords := by
  have hrun := (Ledger.opened session).session_run_fillingSteps scene
  rw [show session.filled scene = _ from hrun.symm]
  refine namesRecords_run h fun entry hmem => ?_
  rw [Scene.fillingSteps, List.mem_cons, List.mem_map] at hmem
  rcases hmem with hmem | ⟨visit, -, hmem⟩ <;> cases hmem

/-! ## What an export adds -/

/-- An export begins with the reserved record, unless its name is taken. -/
theorem entries_begin (session : Session) :
    session.begin.registry.entries = session.registry.entries ++
      if reservedName ∈ session.registry.names then [] else
        [⟨reservedName, none, reservedMaterial⟩] := by
  have hattempted : session.attempted? .begin = some ⟨reservedName, none, reservedMaterial⟩ := rfl
  rcases session.step_of_attempted? hattempted with
    ⟨events, hfree, hstep⟩ | ⟨events, htaken, -, hstep⟩
  · rw [if_neg hfree]
    exact congrArg (·.2.registry.entries) hstep
  · rw [if_pos htaken, List.append_nil]
    exact congrArg (·.2.registry.entries) hstep

/-- The entries of the beginning of an export come first in it. -/
theorem entries_begin_isPrefix (session : Session) (scene : Scene) :
    session.begin.registry.entries <+: (session.filled scene).registry.entries :=
  session.begin.entries_isPrefix_foldl_visit _

/-- What is registered before an export comes first in it. -/
theorem records_isPrefix (session : Session) (scene : Scene) :
    session.registry.records <+: (session.filled scene).registry.records := by
  have hbegin : session.registry.entries <+: session.begin.registry.entries := by
    rw [entries_begin]
    exact List.prefix_append _ _
  exact (hbegin.trans (session.entries_begin_isPrefix scene)).map RegistryEntry.record

/-- If the reserved name is free, the reserved record is what an export adds first. -/
theorem exists_records_filled_of_notMem (hfree : reservedName ∉ session.registry.names)
    (scene : Scene) :
    ∃ later, (session.filled scene).registry.records =
      session.registry.records ++ reservedMaterial :: later := by
  obtain ⟨later, hlater⟩ := session.entries_begin_isPrefix scene
  rw [entries_begin, if_neg hfree] at hlater
  refine ⟨later.map RegistryEntry.record, ?_⟩
  rw [Registry.records, ← hlater, List.append_assoc, List.map_append]
  rfl

/-- The reserved name is taken from the beginning of an export. -/
theorem reservedName_mem_names_filled (session : Session) (scene : Scene) :
    reservedName ∈ (session.filled scene).registry.names := by
  refine ((session.entries_begin_isPrefix scene).map RegistryEntry.name).subset ?_
  rw [entries_begin, List.map_append]
  by_cases htaken : reservedName ∈ session.registry.names
  · exact List.mem_append_left _ htaken
  · rw [if_neg htaken]
    exact List.mem_append_right _ (List.mem_singleton_self _)

end Session

/-! ## The calls since the last export -/

/-- The call exports the materials of a scene. -/
def Call.isExport : Call → Bool
  | .materials _ => true
  | _ => false

/-- The calls since the last export. -/
def Call.sinceExport (calls : List Call) : List Call := calls.rtakeWhile fun call => !call.isExport

theorem Call.sinceExport_concat_of_isExport {call : Call} (h : call.isExport = true)
    (calls : List Call) : sinceExport (calls ++ [call]) = [] :=
  List.rtakeWhile_concat_neg _ _ _ (by rw [h]; decide)

theorem Call.sinceExport_concat {call : Call} (h : call.isExport = false) (calls : List Call) :
    sinceExport (calls ++ [call]) = sinceExport calls ++ [call] :=
  List.rtakeWhile_concat_pos _ _ _ (by rw [h]; rfl)

namespace Session

variable {session : Session} {name : String}

/-- Converting a material registers its exported name, whether it was free or not. -/
theorem mem_names_writeTranslation {material : HostMaterial} :
    name ∈ (session.writeTranslation material).2.registry.names ↔
      name ∈ session.registry.names ∨ exportedName material.name = name := by
  by_cases htaken : exportedName material.name ∈ session.registry.names
  · obtain ⟨entry, hentry⟩ := Registry.exists_find?_of_mem_names htaken
    rw [writeTranslation, accept_of_find?_eq_some hentry]
    refine (or_iff_left_of_imp ?_).symm
    rintro rfl
    exact htaken
  · rw [writeTranslation, accept_of_notMem_names htaken, Registry.names, List.map_append,
      List.map_singleton, List.mem_append, List.mem_singleton, eq_comm (a := name)]
    rfl

/-- **What is registered when a call begins** are the exported names of the materials that were
converted since the last export. -/
theorem mem_names_foldl_call (hempty : session.registry = .empty) {calls : List Call}
    (hown : ∀ entry, .register entry ∉ calls) :
    name ∈ (calls.foldl call session).registry.names ↔
      ∃ material, .convert material ∈ Call.sinceExport calls ∧
        exportedName material.name = name := by
  -- The last call decides whether what was called before it still counts.
  induction calls using List.reverseRecOn with
  | nil =>
    rw [List.foldl_nil, hempty]
    refine iff_of_false List.not_mem_nil ?_
    rintro ⟨material, hmem, -⟩
    cases hmem
  | append_singleton calls call ih =>
    have hcalls := ih fun entry hmem => hown entry (List.mem_append_left _ hmem)
    rw [List.foldl_concat]
    cases call with
    | register entry =>
      exact absurd (List.mem_append_right _ (List.mem_singleton_self _)) (hown entry)
    | materials scene =>
      -- An export empties the registry.
      rw [Call.sinceExport_concat_of_isExport rfl]
      refine iff_of_false List.not_mem_nil ?_
      rintro ⟨material, hmem, -⟩
      cases hmem
    | background world =>
      rw [Call.sinceExport_concat rfl]
      simp only [List.mem_append, List.mem_singleton, reduceCtorEq, or_false]
      exact hcalls
    | convert material =>
      rw [Call.sinceExport_concat rfl]
      refine mem_names_writeTranslation.trans ?_
      rw [hcalls]
      simp only [List.mem_append, List.mem_singleton, Call.convert.injEq, or_and_right, exists_or,
        exists_eq_left]

/-- Without conversions since the last export nothing is registered. -/
theorem records_foldl_call_eq_nil (hempty : session.registry = .empty) {calls : List Call}
    (hown : ∀ entry, .register entry ∉ calls)
    (hnone : ∀ material, .convert material ∉ Call.sinceExport calls) :
    (calls.foldl call session).registry.records = [] := by
  have hnames : (calls.foldl call session).registry.names = [] := by
    refine List.eq_nil_iff_forall_not_mem.mpr fun name hmem => ?_
    obtain ⟨material, hmaterial, -⟩ := (mem_names_foldl_call hempty hown).mp hmem
    exact hnone material hmaterial
  rw [Registry.records, List.map_eq_nil_iff]
  exact List.map_eq_nil_iff.mp hnames

/-- An export of a scene is two calls. -/
theorem writeScene_eq_foldl_call (session : Session) (scene : Scene) :
    (session.writeScene scene).2 =
      [.background scene.world, .materials scene].foldl call session :=
  rfl

/-- **Every export has one record under the reserved name**, whatever was called before except
registrations from outside. The records that were registered before come first. Unless one of the
materials converted since the last export has the reserved name, the reserved record follows them;
if none was converted at all, it is the first, and no other record has its name. -/
theorem writeMaterials_reserved (session : Session) (hempty : session.registry = .empty)
    (calls : List Call) (hown : ∀ entry, .register entry ∉ calls) (scene : Scene) :
    let before := calls.foldl call session
    let records := (before.writeMaterials scene).1
    (records.map MaterialRecord.name).Nodup ∧
      some reservedName ∈ records.map MaterialRecord.name ∧
      before.registry.records <+: records ∧
      ((∀ material, .convert material ∈ Call.sinceExport calls →
          exportedName material.name ≠ reservedName) →
        ∃ later, records = before.registry.records ++ reservedMaterial :: later) ∧
      ((∀ material, .convert material ∉ Call.sinceExport calls) →
        ∃ later, records = reservedMaterial :: later ∧
          ∀ record ∈ later, record.name ≠ some reservedName) := by
  intro before records
  have hbefore : before.registry.NamesRecords :=
    namesRecords_foldl_call (by rw [hempty]; exact .empty) hown
  have hrecords : records = (before.filled scene).registry.records := rfl
  have hnamed := namesRecords_filled hbefore scene
  have hfollows : (∀ material, .convert material ∈ Call.sinceExport calls →
      exportedName material.name ≠ reservedName) →
        ∃ later, records = before.registry.records ++ reservedMaterial :: later := by
    intro hconverted
    refine exists_records_filled_of_notMem (fun hmem => ?_) scene
    obtain ⟨material, hmaterial, hname⟩ := (mem_names_foldl_call hempty hown).mp hmem
    exact hconverted material hmaterial hname
  refine ⟨?_, ?_, before.records_isPrefix scene, hfollows, fun hnone => ?_⟩
  · rw [hrecords]
    exact hnamed.nodup_map_name_records
  · rw [hrecords, hnamed.map_name_records]
    exact List.mem_map_of_mem (before.reservedName_mem_names_filled scene)
  · obtain ⟨later, hlater⟩ := hfollows fun material hmaterial => absurd hmaterial (hnone material)
    rw [show before.registry.records = [] from records_foldl_call_eq_nil hempty hown hnone,
      List.nil_append] at hlater
    refine ⟨later, hlater, fun record hrecord hname => ?_⟩
    -- The first record has the name already, and no name occurs twice.
    have hnodup := hnamed.nodup_map_name_records
    rw [← hrecords, hlater, List.map_cons, List.nodup_cons] at hnodup
    exact hnodup.1 (List.mem_map.mpr ⟨record, hrecord, hname⟩)

/-- After an export the reserved record is first again, also if an impostor was converted before. -/
theorem writeMaterials_reserved_afterExport :
    let calls := [.convert { name := "default" }, .materials {}, .background none]
    (start {}).registry = .empty ∧ (∀ entry, .register entry ∉ calls) ∧
      ∃ later, ((calls.foldl call (start {})).writeMaterials .studio).1 =
          reservedMaterial :: later ∧
        ∀ record ∈ later, record.name ≠ some reservedName := by
  intro calls
  have hempty : (start {}).registry = .empty := rfl
  have hown : ∀ entry, .register entry ∉ calls := by
    intro entry hmem
    simp [calls] at hmem
  have hsince : Call.sinceExport calls = [.background none] := by rfl
  obtain ⟨-, -, -, -, hfirst⟩ := writeMaterials_reserved (start {}) hempty calls hown .studio
  refine ⟨hempty, hown, hfirst fun material hmem => ?_⟩
  rw [hsince, List.mem_singleton] at hmem
  cases hmem

/-- A material that is converted while nothing is registered comes first in the next export. -/
theorem head?_writeMaterials_call_convert (hempty : session.registry = .empty)
    (material : HostMaterial) (scene : Scene) :
    ((session.call (.convert material)).writeMaterials scene).1.head? =
      some (session.entryOf material (material.translate session.settings.glossyMode)).record := by
  have hfree : exportedName material.name ∉ session.registry.names := by
    rw [hempty]
    exact List.not_mem_nil
  have hbefore : (session.call (.convert material)).registry.records =
      [(session.entryOf material (material.translate session.settings.glossyMode)).record] := by
    show (session.accept material _).2.registry.records = _
    rw [accept_of_notMem_names hfree, hempty]
    rfl
  obtain ⟨later, hlater⟩ := (session.call (.convert material)).records_isPrefix scene
  rw [writeMaterials_eq, ← hlater, hbefore]
  rfl

/-- **A conversion displaces the reserved record.** If a material of the reserved name is converted
before an export, it has the name in the export, and the reserved record is missing. -/
theorem writeMaterials_reserved_impostor :
    let impostor : HostMaterial := { name := "default" }
    let records := (((start {}).call (.convert impostor)).writeMaterials .impostor).1
    records.map MaterialRecord.name = [some "default"] ∧ reservedMaterial ∉ records := by
  intro impostor records
  have hnames : records.map MaterialRecord.name = [some "default"] := by decide +kernel
  refine ⟨hnames, fun hmem => ?_⟩
  -- There is one record, which is that of the impostor.
  obtain ⟨record, hrecords, -⟩ := List.map_eq_singleton_iff.mp hnames
  have hempty : (start {}).registry = .empty := rfl
  have hhead : records.head? = _ := head?_writeMaterials_call_convert hempty impostor .impostor
  rw [hrecords, List.mem_singleton] at hmem
  rw [hrecords, ← hmem, List.head?_cons, Option.some.injEq] at hhead
  -- The impostor is lighter than the reserved record.
  have hmaterial : (reservedMaterial : MaterialRecord String).material =
      .lambertian (some (.constant ⟨0.8, 0.8, 0.8⟩)) := by
    rw [hhead]
    show (impostor.flatRecord.map _).material = _
    rw [HostMaterial.flatRecord, MaterialRecord.flat, MaterialRecord.map]
    rfl
  rw [reservedMaterial, MaterialRecord.flat, Material.lambertian.injEq, Option.some.injEq,
    VaryingColor.constant.injEq] at hmaterial
  have hred : (0.2 : Float) = 0.8 := congrArg Color.red hmaterial
  exact absurd hred (by decide +kernel)

end Session

end ShadingExport
