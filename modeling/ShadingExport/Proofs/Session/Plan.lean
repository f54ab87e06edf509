import ShadingExport.Proofs.Texture.Stability
import ShadingExport.Proofs.Translation.Settled
import ShadingExport.Session.Export

/-!
# What an export does, apart from paths

A `Plan` is what remains of an export if paths are left out: the records over images that get
registered, and the events. It depends on the settings and the scene alone. A session carries a plan
out (`Session.CarriesOut`) if it has performed the events and registered the renderings of the
records; every visit of an export keeps to the plan (`Session.CarriesOut.visit`), and so does an
export as a whole (`Session.carriesOut_filled`). What is proved about plans therefore holds of all
exports, whatever the texture directory.
-/

namespace ShadingExport

open Translation

/-! ## Taken and free names -/

namespace Registry

variable {registry : Registry} {name : String}

theorem find?_eq_none_iff : registry.find? name = none ↔ name ∉ registry.names := by
  rw [← contains_iff_mem_names, contains, Option.not_isSome_iff_eq_none]

/-- A name that is taken has an entry. -/
theorem exists_find?_of_mem_names (h : name ∈ registry.names) :
    ∃ entry, registry.find? name = some entry := by
  rw [← contains_iff_mem_names] at h
  exact Option.isSome_iff_exists.mp h

end Registry

/-! ## What becomes of a material -/

/-- What becomes of a material under the given settings: its translation, or its placeholder. -/
def HostMaterial.settled (material : HostMaterial) (settings : Settings) :
    Settled (MaterialRecord Image) :=
  match settings.materialMode with
  | .convert => material.translate settings.glossyMode
  | .flatten => ⟨[], placeholderMaterial material.name⟩

/-- Whatever becomes of a material, its record has its exported name and every image in the record
was asked for. -/
theorem HostMaterial.settled_spec (material : HostMaterial) (settings : Settings) :
    (material.settled settings).value.name = some (exportedName material.name) ∧
      (material.settled settings).value.files ⊆ imagesOf (material.settled settings).events := by
  unfold settled
  cases settings.materialMode with
  | convert => exact material.translate_spec settings.glossyMode
  | flatten => exact ⟨rfl, List.nil_subset _⟩

theorem Session.writeMaterial_eq_accept (session : Session) (material : HostMaterial) :
    session.writeMaterial material =
      session.accept material (material.settled session.settings) := by
  unfold writeMaterial HostMaterial.settled
  cases session.settings.materialMode <;> rfl

/-- The event dismisses a visit that writes nothing: the material was written before, its exported
name is taken or reserved, or the scene does not have it. -/
def Event.IsDismissal : Event → Prop
  | .trace (.alreadyExported _) => True
  | .report (.nameTaken _ _ _) => True
  | .report (.nameReserved _ _) => True
  | .report (.unknownMaterial _ _) => True
  | _ => False

/-- A refusal dismisses the visit of the material. -/
theorem HostMaterial.isDismissal_refusal (material : HostMaterial) (holder : Option String) :
    (material.refusal holder).IsDismissal := by
  unfold refusal
  cases holder with
  | none => trivial
  | some host =>
    dsimp only
    split
    · trivial
    · trivial

/-- Dismissals ask for no image. -/
theorem imagesOf_eq_nil_of_isDismissal {events : List Event}
    (h : ∀ event ∈ events, event.IsDismissal) : imagesOf events = [] := by
  rw [imagesOf, List.filterMap_eq_nil_iff]
  intro event hevent
  cases event with
  | texture image => exact (h _ hevent).elim
  | report report => rfl
  | trace trace => rfl

/-- A refusal asks for no image. -/
theorem HostMaterial.imagesOf_refusal (material : HostMaterial) (holder : Option String) :
    imagesOf [material.refusal holder] = [] := by
  have hdismissal := material.isDismissal_refusal holder
  exact imagesOf_eq_nil_of_isDismissal (List.forall_mem_singleton.mpr hdismissal)

namespace Session

variable {session : Session} {material : HostMaterial} {settled : Settled (MaterialRecord Image)}

/-- The entry that registers a settled translation, with the paths that the session gives. -/
def entryOf (session : Session) (material : HostMaterial)
    (settled : Settled (MaterialRecord Image)) : RegistryEntry :=
  ⟨exportedName material.name, some material.name,
    settled.value.map (session.perform settled.events).textures.path⟩

/-- A material is refused for the sake of the entry that has its exported name. -/
theorem accept_of_find?_eq_some {entry : RegistryEntry}
    (htaken : session.registry.find? (exportedName material.name) = some entry) :
    session.accept material settled = (false, session.perform [material.refusal entry.host]) := by
  rw [accept, refusal?, htaken]
  rfl

/-- A material whose exported name is free is registered under it. -/
theorem accept_of_notMem_names (hfree : exportedName material.name ∉ session.registry.names) :
    session.accept material settled =
      (true, { session.perform settled.events with
        registry := ⟨session.registry.entries ++ [session.entryOf material settled]⟩ }) := by
  have hfind := Registry.find?_eq_none_iff.mpr hfree
  have hcontains : session.registry.contains (exportedName material.name) = false := by
    rw [Registry.contains, hfind]
    rfl
  rw [accept, refusal?, hfind]
  -- Performing events leaves the registry as it is, so that the name is still free afterwards.
  show register _ _ _ _ = _
  rw [register, registry_perform, Registry.register, hcontains]
  rfl

/-- A visit of a wanted material writes what becomes of it, and announces it if it is registered. -/
theorem visit_of_isWanted (hwanted : material.isWanted = true) :
    session.visit (.material material) =
      let (added, after) := session.accept material (material.settled session.settings)
      if added then after.perform [.report (.writing material.name)] else after := by
  rw [← writeMaterial_eq_accept]
  exact if_pos hwanted

end Session

/-- The material that a visit is about, if it is wanted. -/
def Visit.wanted? : Visit → Option HostMaterial
  | .material visited => if visited.isWanted then some visited else none
  | .unknown _ _ => none

/-! ## Plans -/

/-- A record to be registered, over images. -/
structure PlannedEntry where
  /-- The exported name. -/
  name : String
  /-- The host material that the record comes from; built-in records have none. -/
  host : Option String
  /-- The record over images. -/
  skeleton : MaterialRecord Image

/-- The entry that registers a material under the given settings. -/
def HostMaterial.planned (material : HostMaterial) (settings : Settings) : PlannedEntry :=
  ⟨exportedName material.name, some material.name, (material.settled settings).value⟩

/-- The entry that every export starts with. -/
def PlannedEntry.reserved : PlannedEntry := ⟨reservedName, none, reservedMaterial⟩

/-- The registered entry with the paths of a directory. -/
def PlannedEntry.render (entry : PlannedEntry) (textures : TextureDirectory) : RegistryEntry :=
  ⟨entry.name, entry.host, entry.skeleton.map textures.path⟩

/-- What an export does, apart from paths. -/
structure Plan where
  /-- The records to be registered, in order. -/
  entries : List PlannedEntry
  /-- Everything that happens, in order. -/
  events : List Event

namespace Plan

/-- The names that are taken. -/
def names (plan : Plan) : List String := plan.entries.map PlannedEntry.name

/-- The entry of a name. -/
def find? (plan : Plan) (name : String) : Option PlannedEntry :=
  plan.entries.find? (·.name == name)

/-- Plans events. -/
def perform (plan : Plan) (events : List Event) : Plan :=
  { plan with events := plan.events ++ events }

/-- Plans a visit. -/
def visit (settings : Settings) (plan : Plan) : Visit → Plan
  | .unknown object material => plan.perform [.report (.unknownMaterial object material)]
  | .material material =>
    if material.isWanted then
      match plan.find? (exportedName material.name) with
      | some entry => plan.perform [material.refusal entry.host]
      | none =>
        { entries := plan.entries ++ [material.planned settings]
          events := plan.events ++ (material.settled settings).events ++
            [.report (.writing material.name)] }
    else plan

/-- The plan before any visit: the reserved record. -/
def start : Plan := ⟨[.reserved], [.report .writingDefault]⟩

/-- The plan of a scene. -/
def ofScene (settings : Settings) (scene : Scene) : Plan :=
  (scene.visits settings.materialMode).foldl (visit settings) start

end Plan

namespace Session

/-! ## Carrying out a plan -/

/-- The later session has carried out a plan that the earlier one began with an empty registry. -/
structure CarriesOut (session : Session) (plan : Plan) (after : Session) : Prop where
  /-- The settings stay. -/
  settings_eq : after.settings = session.settings
  /-- The images that were asked for have been placed, and no others. -/
  textures_eq : after.textures = session.textures.placeAll (imagesOf plan.events)
  /-- The events have happened, and no others. -/
  journal_eq : after.journal = session.journal ++ plan.events
  /-- Every image of a planned record was asked for. -/
  asked : ∀ entry ∈ plan.entries, entry.skeleton.files ⊆ imagesOf plan.events
  /-- The planned records have been registered with the paths that the directory has now. -/
  entries_eq : after.registry.entries = plan.entries.map (·.render after.textures)

variable {session after : Session} {plan : Plan}

/-- The records that have been registered render the planned ones. -/
theorem CarriesOut.renders (h : session.CarriesOut plan after) {entry : PlannedEntry}
    (hentry : entry ∈ plan.entries) :
    after.textures.Renders entry.skeleton (entry.render after.textures).record := by
  refine ⟨fun image himage => ?_, rfl⟩
  rw [h.textures_eq]
  exact TextureDirectory.isSome_path?_placeAll (h.asked entry hentry himage)

/-- The session after performing more events renders the records that were planned before alike:
their images have been placed already. -/
theorem CarriesOut.render_perform (h : session.CarriesOut plan after) (events : List Event)
    {entry : PlannedEntry} (hentry : entry ∈ plan.entries) :
    entry.render (after.perform events).textures = entry.render after.textures := by
  have hpaths : ∀ image ∈ entry.skeleton.files,
      (after.perform events).textures.path image = after.textures.path image := by
    intro image himage
    rw [textures_perform]
    exact TextureDirectory.path_placeAll_of_isSome _ ((h.renders hentry).placed image himage)
  rw [PlannedEntry.render, PlannedEntry.render, MaterialRecord.map_congr hpaths]

/-- Events alone are carried out by performing them. -/
theorem CarriesOut.perform (h : session.CarriesOut plan after) (events : List Event) :
    session.CarriesOut (plan.perform events) (after.perform events) where
  settings_eq := h.settings_eq
  textures_eq := by
    rw [textures_perform, h.textures_eq, Plan.perform, imagesOf_append,
      TextureDirectory.placeAll_append]
  journal_eq := by
    rw [journal_perform, h.journal_eq, Plan.perform, List.append_assoc]
  asked := by
    intro entry hentry
    rw [Plan.perform, imagesOf_append]
    exact List.subset_append_of_subset_left _ (h.asked entry hentry)
  entries_eq := by
    rw [registry_perform, h.entries_eq]
    exact List.map_congr_left fun entry hentry => (h.render_perform events hentry).symm

/-- A planned record is registered once its events have been performed. -/
theorem CarriesOut.register (h : session.CarriesOut plan after) {entry : PlannedEntry}
    (hasked : entry.skeleton.files ⊆ imagesOf plan.events) :
    session.CarriesOut { plan with entries := plan.entries ++ [entry] }
      { after with registry := ⟨after.registry.entries ++ [entry.render after.textures]⟩ } where
  settings_eq := h.settings_eq
  textures_eq := h.textures_eq
  journal_eq := h.journal_eq
  asked := by
    intro other hother
    rcases List.mem_append.mp hother with hother | hother
    · exact h.asked other hother
    · rw [List.mem_singleton.mp hother]
      exact hasked
  entries_eq := by
    show after.registry.entries ++ _ = _
    rw [h.entries_eq, List.map_append, List.map_singleton]

/-- The registry and the plan agree on the names that are taken, and on who took them. -/
theorem CarriesOut.find?_eq (h : session.CarriesOut plan after) (name : String) :
    after.registry.find? name = (plan.find? name).map (·.render after.textures) := by
  rw [Registry.find?, h.entries_eq, List.find?_map]
  rfl

theorem CarriesOut.refusal?_eq (h : session.CarriesOut plan after) (material : HostMaterial) :
    after.refusal? material =
      (plan.find? (exportedName material.name)).map fun entry => material.refusal entry.host := by
  rw [refusal?, h.find?_eq, Option.map_map]
  rfl

/-- A material whose name is free is registered as planned. -/
theorem CarriesOut.accept (h : session.CarriesOut plan after) {material : HostMaterial}
    (hfree : plan.find? (exportedName material.name) = none) :
    let settled := material.settled session.settings
    let accepted := after.accept material settled
    accepted.1 = true ∧
      session.CarriesOut
        { entries := plan.entries ++ [material.planned session.settings]
          events := plan.events ++ settled.events } accepted.2 := by
  intro settled accepted
  -- The events come first, so that every image of the record has its path when it is registered.
  have hperform : session.CarriesOut (plan.perform settled.events) (after.perform settled.events) :=
    h.perform settled.events
  have hnotMem : exportedName material.name ∉ after.registry.names := by
    rw [← Registry.find?_eq_none_iff, h.find?_eq, hfree]
    rfl
  have haccepted : accepted = _ := accept_of_notMem_names hnotMem
  have hasked : (material.planned session.settings).skeleton.files ⊆
      imagesOf (plan.perform settled.events).events := by
    rw [Plan.perform, imagesOf_append]
    exact List.subset_append_of_subset_right _ (material.settled_spec session.settings).2
  rw [haccepted]
  exact ⟨rfl, hperform.register hasked⟩

/-- **A visit keeps to the plan**: it refuses what the plan refuses, and registers what the plan
registers. -/
theorem CarriesOut.visit (h : session.CarriesOut plan after) (visit : Visit) :
    session.CarriesOut (plan.visit session.settings visit) (after.visit visit) := by
  cases visit with
  | unknown object material => exact h.perform _
  | material material =>
    unfold Plan.visit Session.visit
    by_cases hwanted : material.isWanted = true
    · simp only [hwanted, if_true]
      rw [writeMaterial_eq_accept, h.settings_eq]
      cases hfind : plan.find? (exportedName material.name) with
      | some entry =>
        have haccept : after.accept material (material.settled session.settings) =
            (false, after.perform [material.refusal entry.host]) := by
          rw [Session.accept, h.refusal?_eq, hfind]
          rfl
        rw [haccept]
        exact h.perform [material.refusal entry.host]
      | none =>
        -- A material that is registered is announced.
        obtain ⟨hadded, hcarries⟩ := h.accept hfind
        simp only [hadded, if_true]
        exact hcarries.perform [.report (.writing material.name)]
    · simp only [hwanted]
      exact h

/-- **A run keeps to the plan**: visits in a row are carried out one by one. -/
theorem CarriesOut.foldl_visit (h : session.CarriesOut plan after) (visits : List Visit) :
    session.CarriesOut (visits.foldl (Plan.visit session.settings) plan)
      (visits.foldl Session.visit after) := by
  induction visits generalizing plan after with
  | nil => exact h
  | cons visit visits ih => exact ih (h.visit visit)

/-- An export begins with the reserved record. -/
theorem carriesOut_begin (hempty : session.registry = .empty) :
    session.CarriesOut .start session.begin := by
  have hbegin : session.begin = { session.perform [.report .writingDefault] with
      registry := ⟨[PlannedEntry.reserved.render session.textures]⟩ } := by
    rw [begin, register, Registry.register, registry_perform, hempty]
    rfl
  rw [hbegin]
  refine ⟨rfl, rfl, rfl, ?_, rfl⟩
  intro entry hentry
  rw [List.mem_singleton.mp hentry]
  exact List.nil_subset _

/-- The session in which all visits of a scene have been made, before the registry is emptied. -/
def filled (session : Session) (scene : Scene) : Session :=
  (scene.visits session.settings.materialMode).foldl visit session.begin

/-- An export gives the records of the filled registry and empties it. -/
theorem writeMaterials_eq (session : Session) (scene : Scene) :
    session.writeMaterials scene =
      ((session.filled scene).registry.records, { session.filled scene with registry := .empty }) :=
  rfl

/-- **An export carries out the plan of its scene.** -/
theorem carriesOut_filled (hempty : session.registry = .empty) (scene : Scene) :
    session.CarriesOut (.ofScene session.settings scene) (session.filled scene) :=
  (carriesOut_begin hempty).foldl_visit _

end Session

end ShadingExport
