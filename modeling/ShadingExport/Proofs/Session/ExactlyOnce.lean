import ShadingExport.Proofs.Session.Plan
import ShadingExport.Proofs.Texture.Store
import Mathlib.Data.List.Forall2
import Mathlib.Data.List.Induction
import Mathlib.Data.List.Nodup

/-!
# Every material is exported exactly once

An export visits materials in order, some of them many times, and different materials may have one
exported name. It writes one record per exported name: that of the first wanted material that has
the name. The invariant behind it says what is planned after some visits in terms of the wanted
materials among them (`Plan.lists_ofScene`); a visit either repeats a name, and then neither
side of the invariant changes, or it extends both by one entry.
-/

namespace ShadingExport

open Translation

/-! ## First occurrences -/

/-- The exported names of materials, in the order of their first occurrence and without the
reserved one. -/
def exportedNames (materials : List HostMaterial) : List String :=
  ((materials.map fun material => exportedName material.name).filter (· ≠ reservedName)).eraseDups

/-- The first material that has an exported name. -/
def firstNamed? (materials : List HostMaterial) (name : String) : Option HostMaterial :=
  materials.find? fun material => exportedName material.name == name

/-- The materials that an export writes: for each exported name the first that has it. -/
def written (materials : List HostMaterial) : List HostMaterial :=
  (exportedNames materials).filterMap (firstNamed? materials)

section FirstOccurrences

variable {materials : List HostMaterial} {material : HostMaterial} {name : String}

/-- The exported names are those that occur and are not reserved. -/
theorem mem_exportedNames :
    name ∈ exportedNames materials ↔
      name ≠ reservedName ∧ ∃ material ∈ materials, exportedName material.name = name := by
  rw [exportedNames, List.mem_eraseDups, List.mem_filter, List.mem_map, decide_eq_true_iff,
    and_comm]

/-- A material whose name is taken, or reserved, adds no name. -/
theorem exportedNames_concat_of_mem
    (h : exportedName material.name ∈ reservedName :: exportedNames materials) :
    exportedNames (materials ++ [material]) = exportedNames materials := by
  rw [exportedNames, List.map_append, List.filter_append, List.map_singleton]
  by_cases hreserved : exportedName material.name = reservedName
  · rw [hreserved]
    simp [exportedNames]
  · have hmem := (List.mem_cons.mp h).resolve_left hreserved
    rw [exportedNames, List.mem_eraseDups] at hmem
    rw [List.filter_singleton, decide_eq_true hreserved, cond_true, eraseDups_concat, if_pos hmem]
    rfl

/-- A material whose name is free adds it at the end. -/
theorem exportedNames_concat_of_notMem
    (h : exportedName material.name ∉ reservedName :: exportedNames materials) :
    exportedNames (materials ++ [material]) =
      exportedNames materials ++ [exportedName material.name] := by
  obtain ⟨hreserved, hmem⟩ := not_or.mp (mt List.mem_cons.mpr h)
  rw [exportedNames, List.mem_eraseDups] at hmem
  rw [exportedNames, List.map_append, List.filter_append, List.map_singleton,
    List.filter_singleton, decide_eq_true hreserved, cond_true, eraseDups_concat, if_neg hmem]
  rfl

/-- No exported name occurs twice, and none is reserved. -/
theorem nodup_reservedName_cons_exportedNames (materials : List HostMaterial) :
    (reservedName :: exportedNames materials).Nodup := by
  refine List.nodup_cons.mpr ⟨fun h => (mem_exportedNames.mp h).1 rfl, ?_⟩
  induction materials using List.reverseRecOn with
  | nil => exact List.nodup_nil
  | append_singleton materials material ih =>
    by_cases h : exportedName material.name ∈ reservedName :: exportedNames materials
    · rw [exportedNames_concat_of_mem h]
      exact ih
    · rw [exportedNames_concat_of_notMem h, ← List.concat_eq_append]
      exact ih.concat fun hmem => h (List.mem_cons_of_mem _ hmem)

/-- Every exported name has a first material. -/
theorem exists_firstNamed?_of_mem (h : name ∈ exportedNames materials) :
    ∃ material, firstNamed? materials name = some material ∧ exportedName material.name = name := by
  obtain ⟨-, candidate, hcandidate, hname⟩ := mem_exportedNames.mp h
  have hsome : (firstNamed? materials name).isSome := by
    rw [firstNamed?, List.find?_isSome]
    exact ⟨candidate, hcandidate, beq_iff_eq.mpr hname⟩
  obtain ⟨material, hfirst⟩ := Option.isSome_iff_exists.mp hsome
  have hname : exportedName material.name = name := by
    simpa using List.find?_some hfirst
  exact ⟨material, hfirst, hname⟩

/-- Later materials do not change which material is the first of a name. -/
theorem firstNamed?_append_of_mem (h : name ∈ exportedNames materials)
    (later : List HostMaterial) :
    firstNamed? (materials ++ later) name = firstNamed? materials name := by
  obtain ⟨material, hfirst, -⟩ := exists_firstNamed?_of_mem h
  rw [firstNamed?, List.find?_append, ← firstNamed?, hfirst, Option.some_or]

/-- The written materials have the exported names, in order. -/
theorem map_exportedName_written (materials : List HostMaterial) :
    (written materials).map (exportedName ·.name) = exportedNames materials := by
  have hname : ∀ name ∈ exportedNames materials,
      (firstNamed? materials name).map (exportedName ·.name) = some name := by
    intro name hname
    obtain ⟨material, hfirst, hmaterial⟩ := exists_firstNamed?_of_mem hname
    rw [hfirst, Option.map_some, hmaterial]
  rw [written, List.map_filterMap, List.filterMap_congr hname, List.filterMap_some]

/-- No material is written twice. -/
theorem nodup_written (materials : List HostMaterial) : (written materials).Nodup := by
  refine List.Nodup.of_map (exportedName ·.name) ?_
  rw [map_exportedName_written]
  exact (List.nodup_cons.mp (nodup_reservedName_cons_exportedNames materials)).2

/-- The written materials are those that are the first of a name that is not reserved. -/
theorem mem_written :
    material ∈ written materials ↔ exportedName material.name ≠ reservedName ∧
      firstNamed? materials (exportedName material.name) = some material := by
  constructor
  · intro h
    obtain ⟨name, hname, hfirst⟩ := List.mem_filterMap.mp h
    obtain ⟨other, hother, rfl⟩ := exists_firstNamed?_of_mem hname
    cases hfirst.symm.trans hother
    exact ⟨(mem_exportedNames.mp hname).1, hfirst⟩
  · rintro ⟨hreserved, hfirst⟩
    have hmem : material ∈ materials := List.mem_of_find?_eq_some hfirst
    exact List.mem_filterMap.mpr
      ⟨_, mem_exportedNames.mpr ⟨hreserved, material, hmem, rfl⟩, hfirst⟩

/-- A written material is the first of its name. -/
theorem firstNamed?_of_mem_written (h : material ∈ written materials) :
    firstNamed? materials (exportedName material.name) = some material :=
  (mem_written.mp h).2

theorem written_concat_of_mem
    (h : exportedName material.name ∈ reservedName :: exportedNames materials) :
    written (materials ++ [material]) = written materials := by
  rw [written, exportedNames_concat_of_mem h]
  exact List.filterMap_congr fun name hname => firstNamed?_append_of_mem hname [material]

theorem written_concat_of_notMem
    (h : exportedName material.name ∉ reservedName :: exportedNames materials) :
    written (materials ++ [material]) = written materials ++ [material] := by
  have hnone : firstNamed? materials (exportedName material.name) = none := by
    -- An earlier material of the name would have taken it.
    rw [firstNamed?, List.find?_eq_none]
    intro other hother hname
    rw [beq_iff_eq] at hname
    refine h (List.mem_cons.mpr (or_iff_not_imp_left.mpr fun hreserved => ?_))
    exact mem_exportedNames.mpr ⟨hreserved, other, hother, hname⟩
  have hfirst : firstNamed? (materials ++ [material]) (exportedName material.name) =
      some material := by
    rw [firstNamed?, List.find?_append, ← firstNamed?, hnone, Option.none_or]
    simp
  rw [written, exportedNames_concat_of_notMem h, List.filterMap_append,
    List.filterMap_congr fun name hname => firstNamed?_append_of_mem hname [material],
    List.filterMap_cons_some hfirst, List.filterMap_nil]
  rfl

end FirstOccurrences

/-! ## What is planned -/

namespace Plan

variable {settings : Settings} {plan : Plan} {seen : List HostMaterial}

/-- The plan has the entries of the materials seen so far: the reserved one, then one for each
material that is written. -/
def Lists (settings : Settings) (seen : List HostMaterial) (plan : Plan) : Prop :=
  plan.entries = .reserved :: (written seen).map (·.planned settings)

theorem Lists.names_eq (h : plan.Lists settings seen) :
    plan.entries.map PlannedEntry.name = reservedName :: exportedNames seen := by
  rw [h, List.map_cons, List.map_map, ← map_exportedName_written]
  rfl

/-- A name is taken in a plan if it is reserved or was seen. -/
theorem Lists.isSome_find?_iff (h : plan.Lists settings seen) (name : String) :
    (plan.find? name).isSome ↔ name ∈ reservedName :: exportedNames seen := by
  rw [← h.names_eq, find?, List.find?_isSome, List.mem_map]
  simp only [beq_iff_eq]

/-- What a visit can do: it is dismissed, and the materials that are written stay the same, or it
plans the record of a material that is the first of its name. -/
theorem Lists.visit_cases (h : plan.Lists settings seen) (visit : Visit) :
    (∃ events, (∀ event ∈ events, event.IsDismissal) ∧
      plan.visit settings visit = plan.perform events ∧
      written (seen ++ visit.wanted?.toList) = written seen) ∨
    ∃ material, written (seen ++ visit.wanted?.toList) = written seen ++ [material] ∧
      plan.visit settings visit =
        { entries := plan.entries ++ [material.planned settings]
          events := plan.events ++ (material.settled settings).events ++
            [.report (.writing material.name)] } := by
  cases visit with
  | unknown object material =>
    rw [Visit.wanted?, Option.toList_none, List.append_nil]
    refine .inl ⟨[.report (.unknownMaterial object material)], ?_, rfl, rfl⟩
    exact List.forall_mem_singleton.mpr trivial
  | material material =>
    unfold Plan.visit Visit.wanted?
    by_cases hwanted : material.isWanted = true
    · simp only [hwanted, if_true, Option.toList_some]
      have hiff := h.isSome_find?_iff (exportedName material.name)
      cases hfind : plan.find? (exportedName material.name) with
      | some entry =>
        -- The name is taken: the material is not the first of its name.
        rw [hfind] at hiff
        have hdismissal := material.isDismissal_refusal entry.host
        exact .inl ⟨_, List.forall_mem_singleton.mpr hdismissal, rfl,
          written_concat_of_mem (hiff.mp rfl)⟩
      | none =>
        -- The name is free: the material is the first of its name.
        rw [hfind] at hiff
        exact .inr ⟨material, written_concat_of_notMem (mt hiff.mpr (by decide)), rfl⟩
    · simp only [hwanted]
      rw [if_neg (by decide), if_neg (by decide), Option.toList_none, List.append_nil]
      refine .inl ⟨[], List.forall_mem_nil _, ?_, rfl⟩
      rw [perform, List.append_nil]

/-- **A visit keeps the invariant**: the wanted material that it is about, if there is one, has been
seen afterwards. -/
theorem Lists.visit (h : plan.Lists settings seen) (visit : Visit) :
    (plan.visit settings visit).Lists settings (seen ++ visit.wanted?.toList) := by
  rcases h.visit_cases visit with ⟨events, -, hvisit, hwritten⟩ | ⟨material, hwritten, hvisit⟩
  · rw [hvisit, Lists, hwritten]
    exact h
  · rw [hvisit, Lists, hwritten, h, List.map_append, List.cons_append]
    rfl

/-- **Induction over visits**: what every visit keeps, as a property of the wanted materials seen so
far and the plan, a run keeps. -/
theorem foldl_visit_induction {motive : List HostMaterial → Plan → Prop}
    (hvisit : ∀ seen plan visit, motive seen plan →
      motive (seen ++ visit.wanted?.toList) (plan.visit settings visit))
    (h : motive seen plan) (visits : List Visit) :
    motive (seen ++ visits.filterMap Visit.wanted?)
      (visits.foldl (Plan.visit settings) plan) := by
  induction visits generalizing plan seen with
  | nil =>
    rw [List.filterMap_nil, List.append_nil]
    exact h
  | cons visit visits ih =>
    have hvisits := ih (hvisit seen plan visit h)
    cases hwanted : visit.wanted? with
    | none =>
      rw [hwanted, Option.toList_none, List.append_nil] at hvisits
      rw [List.filterMap_cons_none hwanted]
      exact hvisits
    | some material =>
      rw [hwanted, Option.toList_some, List.append_assoc] at hvisits
      rw [List.filterMap_cons_some hwanted]
      exact hvisits

end Plan

/-! ## What a scene asks for -/

/-- The materials that an export visits, in order: in convert mode the first material of each name
that an object refers to, in flatten mode all materials. -/
def Scene.visited (scene : Scene) : MaterialMode → List HostMaterial
  | .convert => scene.objects.flatMap fun object => object.materials.filterMap scene.material?
  | .flatten => scene.materials

/-- The visited materials that are in use and not the host's own. -/
def Scene.wanted (scene : Scene) (mode : MaterialMode) : List HostMaterial :=
  (scene.visited mode).filter HostMaterial.isWanted

/-- The visits of an export are about the wanted materials, in order. -/
theorem Scene.filterMap_wanted?_visits (scene : Scene) (mode : MaterialMode) :
    (scene.visits mode).filterMap Visit.wanted? = scene.wanted mode := by
  cases mode with
  | convert =>
    rw [visits, wanted, visited, List.filterMap_flatMap, List.filter_flatMap]
    congr 1
    funext object
    rw [List.filterMap_map, List.filter_filterMap]
    congr 1
    funext reference
    rw [Function.comp_apply, visitOf]
    cases scene.material? reference <;> rfl
  | flatten =>
    rw [visits, wanted, visited, List.filterMap_map, ← List.filterMap_eq_filter]
    rfl

namespace Plan

variable {settings : Settings}

/-- What holds before any visit and what every visit keeps holds of the plan of a scene and its
wanted materials. -/
theorem ofScene_induction {motive : List HostMaterial → Plan → Prop}
    (hstart : motive [] .start)
    (hvisit : ∀ seen plan visit, motive seen plan →
      motive (seen ++ visit.wanted?.toList) (plan.visit settings visit))
    (scene : Scene) : motive (scene.wanted settings.materialMode) (.ofScene settings scene) := by
  rw [← scene.filterMap_wanted?_visits]
  exact foldl_visit_induction hvisit hstart _

/-- The plan of a scene lists its wanted materials. -/
theorem lists_ofScene (settings : Settings) (scene : Scene) :
    (Plan.ofScene settings scene).Lists settings (scene.wanted settings.materialMode) :=
  ofScene_induction rfl (fun _ _ visit h => h.visit visit) scene

/-- The plan of a scene asks for the images of the materials that are written, in order. -/
theorem imagesOf_events_ofScene (settings : Settings) (scene : Scene) :
    imagesOf (Plan.ofScene settings scene).events =
      (written (scene.wanted settings.materialMode)).flatMap fun material =>
        imagesOf (material.settled settings).events := by
  refine (ofScene_induction (motive := fun seen plan => plan.Lists settings seen ∧
    imagesOf plan.events = (written seen).flatMap fun material =>
      imagesOf (material.settled settings).events) ⟨rfl, rfl⟩ ?_ scene).2
  rintro seen plan visit ⟨hlists, himages⟩
  refine ⟨hlists.visit visit, ?_⟩
  rcases hlists.visit_cases visit with ⟨events, hevents, hvisit, hwritten⟩ |
    ⟨material, hwritten, hvisit⟩
  · rw [hvisit, hwritten, Plan.perform, imagesOf_append, imagesOf_eq_nil_of_isDismissal hevents,
      List.append_nil, himages]
  · rw [hvisit, hwritten, List.flatMap_append, List.flatMap_singleton, imagesOf_append,
      imagesOf_append, himages, imagesOf_cons_report, imagesOf_nil, List.append_nil]

end Plan

/-! ## What an export writes -/

namespace Session

variable {session : Session}

/-- The registry that an export fills: the reserved record, then the renderings of the materials
that are written. -/
theorem entries_filled (hempty : session.registry = .empty) (scene : Scene) :
    (session.filled scene).registry.entries =
      ⟨reservedName, none, reservedMaterial⟩ ::
        (written (scene.wanted session.settings.materialMode)).map fun material =>
          (material.planned session.settings).render (session.filled scene).textures := by
  rw [(carriesOut_filled hempty scene).entries_eq, Plan.lists_ofScene, List.map_cons, List.map_map]
  rfl

/-- Every registered record has the name that it is registered under. -/
theorem record_name_of_mem_entries_filled (hempty : session.registry = .empty) (scene : Scene)
    {entry : RegistryEntry} (hentry : entry ∈ (session.filled scene).registry.entries) :
    entry.record.name = some entry.name := by
  rw [entries_filled hempty, List.mem_cons, List.mem_map] at hentry
  rcases hentry with rfl | ⟨material, -, rfl⟩
  · rfl
  · show ((material.settled session.settings).value.map _).name = _
    rw [MaterialRecord.name_map, (material.settled_spec session.settings).1]
    rfl

/-- The names of the records of an export, in order. -/
theorem map_name_records_filled (hempty : session.registry = .empty) (scene : Scene) :
    (session.filled scene).registry.records.map MaterialRecord.name =
      (reservedName :: exportedNames (scene.wanted session.settings.materialMode)).map some := by
  have hnames : (session.filled scene).registry.names =
      reservedName :: exportedNames (scene.wanted session.settings.materialMode) := by
    rw [Registry.names, entries_filled hempty, ← map_exportedName_written, List.map_cons,
      List.map_map]
    rfl
  rw [← hnames, Registry.records, Registry.names, List.map_map, List.map_map]
  exact List.map_congr_left fun entry hentry =>
    record_name_of_mem_entries_filled hempty scene hentry

/-- **Every material is exported exactly once.** If the registry is empty, the records of an export
have distinct names. The first is the reserved record; the names after it are the first occurrences,
in visiting order and without the reserved name, of the exported names of the wanted materials, and
each of these records renders what becomes of the first wanted material of its name. Every record
has the name that it is registered under, and the registry is empty afterwards. -/
theorem writeMaterials_exactly_once (session : Session) (hempty : session.registry = .empty)
    (scene : Scene) :
    let records := (session.writeMaterials scene).1
    let after := (session.writeMaterials scene).2
    let materials := scene.wanted session.settings.materialMode
    (records.map MaterialRecord.name).Nodup ∧
      (∃ later, records = reservedMaterial :: later ∧
        List.Forall₂ (fun name record => record.name = some name ∧
          ∃ material, firstNamed? materials name = some material ∧
            after.textures.Renders (material.settled session.settings).value record)
          (exportedNames materials) later) ∧
      records = (session.filled scene).registry.records ∧
      (∀ entry ∈ (session.filled scene).registry.entries, entry.record.name = some entry.name) ∧
      after.registry = .empty := by
  rw [writeMaterials_eq]
  dsimp only
  have hentries := entries_filled hempty scene
  refine ⟨?_, ⟨_, congrArg (List.map RegistryEntry.record) hentries, ?_⟩, rfl,
    fun entry hentry => record_name_of_mem_entries_filled hempty scene hentry, rfl⟩
  · rw [map_name_records_filled hempty]
    exact (nodup_reservedName_cons_exportedNames _).map fun _ _ => Option.some.inj
  · rw [← map_exportedName_written, List.map_map, List.forall₂_map_left_iff,
      List.forall₂_map_right_iff, List.forall₂_same]
    intro material hmaterial
    have hplanned : material.planned session.settings ∈
        (Plan.ofScene session.settings scene).entries := by
      rw [Plan.lists_ofScene]
      exact List.mem_cons_of_mem _ (List.mem_map_of_mem hmaterial)
    have hrenders := (carriesOut_filled hempty scene).renders hplanned
    refine ⟨?_, material, firstNamed?_of_mem_written hmaterial, hrenders⟩
    rw [Function.comp_apply, hrenders.name_eq]
    exact (material.settled_spec session.settings).1

end Session

/-- Two materials that share an exported name, one with the reserved name, and one used twice. -/
def Scene.studio : Scene where
  materials := [{ name := "Red Wall", useNodes := false }, { name := "Red_Wall" },
    { name := "default" }, { name := "Floor" }]
  objects := [{ name := "Room", materials := ["Floor", "Red Wall", "Red_Wall"] },
    { name := "Stage", materials := ["default", "Floor"] }]

/-- The studio has three records: the reserved one, that of the floor, and that of the first of the
red walls. -/
theorem Session.writeMaterials_studio :
    (Session.start {}).registry = .empty ∧
      ((Session.start {}).writeMaterials .studio).1.map MaterialRecord.name =
        [some "default", some "Floor", some "Red_Wall"] ∧
      (firstNamed? (Scene.studio.wanted .convert) "Red_Wall").map HostMaterial.name =
        some "Red Wall" := by
  have hempty : (Session.start {}).registry = .empty := rfl
  have hexported : ["Floor", "Red Wall", "Red_Wall", "default", "Floor"].map exportedName =
      ["Floor", "Red_Wall", "Red_Wall", "default", "Floor"] := by decide +kernel
  have hwanted : (Scene.studio.wanted .convert).map HostMaterial.name =
      ["Floor", "Red Wall", "Red_Wall", "default", "Floor"] := by decide +kernel
  have hnames : exportedNames (Scene.studio.wanted .convert) = ["Floor", "Red_Wall"] := by
    have hmap : (Scene.studio.wanted .convert).map (fun material => exportedName material.name) =
        ["Floor", "Red_Wall", "Red_Wall", "default", "Floor"] := by
      rw [← hexported, ← hwanted, List.map_map]
      rfl
    rw [exportedNames, hmap]
    decide +kernel
  refine ⟨hempty, ?_, by decide +kernel⟩
  obtain ⟨-, ⟨later, hrecords, hlater⟩, -⟩ :=
    writeMaterials_exactly_once (Session.start {}) hempty .studio
  rw [show (Session.start {}).settings.materialMode = .convert from rfl, hnames] at hlater
  rw [hrecords, List.map_cons]
  cases hlater with
  | cons hfloor hlater =>
    cases hlater with
    | cons hwall hlater =>
      cases hlater
      rw [List.map_cons, List.map_singleton, hfloor.1, hwall.1]
      rfl

end ShadingExport
