import ShadingExport.Proofs.Session.Plan
import Mathlib.Logic.Function.Basic

/-!
# The registry over many calls

Records get into the registry one by one, or when a material is converted, or in the course of an
export, which empties it at the end. A `Ledger` goes along with a session and keeps what was
accepted since the registry was last emptied: the entries in order, and an index of their names that
only grows when an entry is accepted. Whatever the calls, and at every point in the middle of an
export, the registry is what the ledger says (`Ledger.Sound`). All of this follows from what a
single step can do (`Session.Effect`).
-/

namespace ShadingExport

open Translation

/-! ## Steps -/

/-- What happens to the registry of a session, one step at a time. An export is taken apart into its
beginning, its visits and the emptying of the registry. -/
inductive Step where
  /-- A record is registered. -/
  | register (entry : RegistryEntry)
  /-- A material is converted. -/
  | convert (material : HostMaterial)
  /-- A background is translated. -/
  | background (world : Option World)
  /-- An export begins. -/
  | begin
  /-- An export visits a material. -/
  | visit (visit : Visit)
  /-- The records of an export are taken out. -/
  | drain

/-- The calls that a session serves. -/
inductive Call where
  /-- Registers a record. -/
  | register (entry : RegistryEntry)
  /-- Converts a material. -/
  | convert (material : HostMaterial)
  /-- Exports the materials of a scene. -/
  | materials (scene : Scene)
  /-- Translates a background. -/
  | background (world : Option World)

/-- The steps of an export before the registry is emptied. -/
def Scene.fillingSteps (scene : Scene) (mode : MaterialMode) : List Step :=
  .begin :: (scene.visits mode).map Step.visit

/-- The steps of a call. -/
def Call.steps (mode : MaterialMode) : Call → List Step
  | .register entry => [.register entry]
  | .convert material => [.convert material]
  | .materials scene => scene.fillingSteps mode ++ [.drain]
  | .background world => [.background world]

namespace Session

/-- Serves a call. -/
def call (session : Session) : Call → Session
  | .register entry => (session.register entry.name entry.host entry.record).2
  | .convert material => (session.writeTranslation material).2
  | .materials scene => (session.writeMaterials scene).2
  | .background world => (session.writeBackground world).2

/-- Takes a step; tells whether a record was accepted. -/
def step (session : Session) : Step → Bool × Session
  | .register entry => session.register entry.name entry.host entry.record
  | .convert material => session.writeTranslation material
  | .background world => (false, (session.writeBackground world).2)
  | .begin =>
    (session.perform [.report .writingDefault]).register reservedName none reservedMaterial
  | .visit visit =>
    (visit.wanted?.any fun material => (session.writeMaterial material).1, session.visit visit)
  | .drain => (false, { session with registry := .empty })

/-- The entry that a step is about to register, if its name is free. -/
def attempted? (session : Session) : Step → Option RegistryEntry
  | .register entry => some entry
  | .convert material =>
    some (session.entryOf material (material.translate session.settings.glossyMode))
  | .begin => some ⟨reservedName, none, reservedMaterial⟩
  | .visit visit =>
    visit.wanted?.map fun material =>
      session.entryOf material (material.settled session.settings)
  | _ => none

/-- **What a step can do**: its entry is accepted at the end of the registry, or refused because its
name is taken; it has no entry and performs events; or it empties the registry. -/
inductive Effect (session : Session) (step : Step) : Prop where
  /-- The entry is accepted. -/
  | accepts {entry : RegistryEntry} {events : List Event}
    (hattempted : session.attempted? step = some entry)
    (hfree : entry.name ∉ session.registry.names)
    (hstep : session.step step = (true, { session.perform events with
      registry := ⟨session.registry.entries ++ [entry]⟩ }))
  /-- The entry is refused, without images being asked for. -/
  | refuses {entry : RegistryEntry} {events : List Event}
    (hattempted : session.attempted? step = some entry)
    (htaken : entry.name ∈ session.registry.names) (himages : imagesOf events = [])
    (hstep : session.step step = (false, session.perform events))
  /-- There is no entry. -/
  | performs {events : List Event} (hattempted : session.attempted? step = none)
    (hdrain : step ≠ .drain) (hstep : session.step step = (false, session.perform events))
  /-- The registry is emptied. -/
  | drains (hdrain : step = .drain)

variable {session : Session}

/-- A registration adds an entry whose name is free. -/
theorem register_of_notMem_names {entry : RegistryEntry}
    (hfree : entry.name ∉ session.registry.names) :
    session.register entry.name entry.host entry.record =
      (true, { session with registry := ⟨session.registry.entries ++ [entry]⟩ }) := by
  have hcontains : session.registry.contains entry.name = false := by
    rw [← Bool.not_eq_true, Registry.contains_iff_mem_names]
    exact hfree
  rw [register, Registry.register, hcontains]
  rfl

/-- A registration under a name that is taken changes nothing. -/
theorem register_of_mem_names {name : String} (htaken : name ∈ session.registry.names)
    (host : Option String) (record : MaterialRecord String) :
    session.register name host record = (false, session) := by
  rw [← Registry.contains_iff_mem_names] at htaken
  rw [register, Registry.register_of_contains host record htaken]

/-- A step that registers an entry after some events accepts or refuses it. -/
theorem effect_of_register {step : Step} {entry : RegistryEntry} {events : List Event}
    (hattempted : session.attempted? step = some entry) (himages : imagesOf events = [])
    (hstep : session.step step =
      (session.perform events).register entry.name entry.host entry.record) :
    session.Effect step := by
  by_cases htaken : entry.name ∈ (session.perform events).registry.names
  · rw [register_of_mem_names htaken] at hstep
    exact .refuses hattempted htaken himages hstep
  · rw [register_of_notMem_names htaken] at hstep
    exact .accepts hattempted htaken hstep

/-- A step that writes a settled material accepts or refuses it; more events may follow where it is
accepted. -/
theorem effect_of_accept {step : Step} {material : HostMaterial}
    {settled : Settled (MaterialRecord Image)} {later : List Event}
    (hattempted : session.attempted? step = some (session.entryOf material settled))
    (hstep : session.step step =
      let (added, after) := session.accept material settled
      (added, if added then after.perform later else after)) : session.Effect step := by
  by_cases htaken : exportedName material.name ∈ session.registry.names
  · obtain ⟨entry, hentry⟩ := Registry.exists_find?_of_mem_names htaken
    rw [accept_of_find?_eq_some hentry] at hstep
    exact .refuses hattempted htaken (material.imagesOf_refusal entry.host) hstep
  · have hadded : session.step step = (true, { session.perform (settled.events ++ later) with
        registry := ⟨session.registry.entries ++ [session.entryOf material settled]⟩ }) := by
      rw [hstep, accept_of_notMem_names htaken, perform_append]
      rfl
    exact .accepts hattempted htaken hadded

/-- Every step has one of the effects. -/
theorem effect (session : Session) (step : Step) : session.Effect step := by
  cases step with
  | register entry =>
    refine effect_of_register rfl imagesOf_nil ?_
    rw [perform_nil]
    rfl
  | convert material =>
    have hstep : session.step (.convert material) =
        let (added, after) :=
          session.accept material (material.translate session.settings.glossyMode)
        (added, if added then after.perform [] else after) := by
      simp only [perform_nil, ite_self]
      rfl
    exact effect_of_accept rfl hstep
  | background world => exact .performs rfl nofun rfl
  | begin => exact effect_of_register rfl rfl rfl
  | visit visit =>
    cases visit with
    | unknown object material => exact .performs rfl nofun rfl
    | material material =>
      by_cases hwanted : material.isWanted = true
      · have hmaterial : (Visit.material material).wanted? = some material := if_pos hwanted
        have hattempted : session.attempted? (.visit (.material material)) =
            some (session.entryOf material (material.settled session.settings)) := by
          rw [attempted?, hmaterial, Option.map_some]
        have hstep : session.step (.visit (.material material)) =
            let (added, after) := session.accept material (material.settled session.settings)
            (added, if added then after.perform [.report (.writing material.name)] else after) := by
          rw [step, hmaterial, Option.any_some, visit_of_isWanted hwanted,
            writeMaterial_eq_accept]
        exact effect_of_accept hattempted hstep
      · have hnone : (Visit.material material).wanted? = none := if_neg hwanted
        have hattempted : session.attempted? (.visit (.material material)) = none := by
          rw [attempted?, hnone, Option.map_none]
        have hstep : session.step (.visit (.material material)) = (false, session.perform []) := by
          rw [step, hnone, Option.any_none, perform_nil]
          exact congrArg _ (if_neg hwanted)
        exact .performs hattempted nofun hstep
  | drain => exact .drains rfl

/-- **What is attempted is accepted or refused**, as its name is free or taken. -/
theorem step_of_attempted? {step : Step} {entry : RegistryEntry}
    (hattempted : session.attempted? step = some entry) :
    (∃ events, entry.name ∉ session.registry.names ∧
      session.step step = (true, { session.perform events with
        registry := ⟨session.registry.entries ++ [entry]⟩ })) ∨
    ∃ events, entry.name ∈ session.registry.names ∧ imagesOf events = [] ∧
      session.step step = (false, session.perform events) := by
  cases session.effect step with
  | accepts hattempted' hfree hstep =>
    cases hattempted.symm.trans hattempted'
    exact .inl ⟨_, hfree, hstep⟩
  | refuses hattempted' htaken himages hstep =>
    cases hattempted.symm.trans hattempted'
    exact .inr ⟨_, htaken, himages, hstep⟩
  | performs hnone => cases hattempted.symm.trans hnone
  | drains hdrain =>
    rw [hdrain] at hattempted
    cases hattempted

/-- No step changes the settings. -/
@[simp] theorem settings_step (session : Session) (step : Step) :
    (session.step step).2.settings = session.settings := by
  cases session.effect step with
  | accepts _ _ hstep => rw [hstep]; rfl
  | refuses _ _ _ hstep => rw [hstep]; rfl
  | performs _ _ hstep => rw [hstep]; rfl
  | drains hdrain => rw [hdrain]; rfl

end Session

/-! ## Positions -/

namespace Registry

variable {registry : Registry} {name : String} {position : Nat}

/-- A name has a position if it is registered. -/
theorem isSome_position?_iff : (registry.position? name).isSome ↔ name ∈ registry.names := by
  rw [position?, List.findIdx?_isSome, List.any_eq_true, names, List.mem_map]
  simp only [beq_iff_eq]

/-- The entry of a name is the one at its position. -/
theorem find?_eq_bind_position? (registry : Registry) (name : String) :
    registry.find? name = (registry.position? name).bind (registry.entries[·]?) :=
  List.find?_eq_bind_findIdx?_getElem?

/-- If no name is registered twice, the position of a name is the one place where it stands. -/
theorem position?_eq_some_iff (hnodup : registry.names.Nodup) :
    registry.position? name = some position ↔ registry.names[position]? = some name := by
  rw [position?, List.findIdx?_eq_some_iff_getElem]
  constructor
  · rintro ⟨hlt, hname, -⟩
    rw [names, List.getElem?_map, List.getElem?_eq_getElem hlt, Option.map_some]
    exact congrArg some (beq_iff_eq.mp hname)
  · intro hname
    obtain ⟨hlt, rfl⟩ := List.getElem?_eq_some_iff.mp hname
    have hlength : position < registry.entries.length := by
      rw [names, List.length_map] at hlt
      exact hlt
    refine ⟨hlength, ?_, fun earlier hearlier hsame => ?_⟩
    · simp [names]
    · -- An earlier entry of the name would be the same place.
      have hearlierLt : earlier < registry.names.length := hearlier.trans hlt
      have hnames : registry.names[earlier] = registry.names[position] := by
        simpa [names] using hsame
      rw [hnodup.getElem_inj_iff] at hnames
      omega

/-- An entry that is added gets the next position, and all others keep theirs. -/
theorem position?_concat {entry : RegistryEntry} (hfree : entry.name ∉ registry.names) :
    (⟨registry.entries ++ [entry]⟩ : Registry).position? =
      Function.update registry.position? entry.name (some registry.size) := by
  funext name
  rw [position?, List.findIdx?_append]
  by_cases hname : name = entry.name
  · subst hname
    have hnone : registry.position? entry.name = none := by
      rw [← Option.not_isSome_iff_eq_none, isSome_position?_iff]
      exact hfree
    rw [Function.update_self, ← position?, hnone, Option.none_or]
    simp [size]
  · have hother : [entry].findIdx? (·.name == name) = none := by
      simp [Ne.symm hname]
    rw [Function.update_of_ne hname, hother, Option.map_none, Option.or_none, position?]

end Registry

/-! ## Ledgers -/

/-- A session with what was accepted since its registry was last emptied. -/
structure Ledger where
  /-- The session. -/
  session : Session
  /-- The accepted entries, in the order of acceptance. -/
  accepted : List RegistryEntry
  /-- The position of each accepted name. -/
  index : String → Option Nat

namespace Ledger

/-- The ledger of a session with an empty registry. -/
def opened (session : Session) : Ledger := ⟨session, [], fun _ => none⟩

/-- The accepted names. -/
def names (ledger : Ledger) : List String := ledger.accepted.map RegistryEntry.name

/-- Enters an accepted entry: its name gets the next position. -/
def enter (ledger : Ledger) (entry : RegistryEntry) : Ledger :=
  { ledger with
    accepted := ledger.accepted ++ [entry]
    index := Function.update ledger.index entry.name (some ledger.accepted.length) }

/-- Takes a step that does not empty the registry. What is accepted is entered. -/
def take (ledger : Ledger) (step : Step) : Ledger :=
  let (added, after) := ledger.session.step step
  match ledger.session.attempted? step with
  | some entry =>
    if added then { ledger.enter entry with session := after } else { ledger with session := after }
  | none => { ledger with session := after }

/-- Takes a step. -/
def step (ledger : Ledger) : Step → Ledger
  | .drain => opened (ledger.session.step .drain).2
  | step => ledger.take step

/-- Takes steps in order. -/
def run (ledger : Ledger) (steps : List Step) : Ledger := steps.foldl step ledger

/-- The registry is what the ledger says. -/
structure Keeps (ledger : Ledger) : Prop where
  /-- The entries are the accepted ones. -/
  entries_eq : ledger.session.registry.entries = ledger.accepted
  /-- No name was accepted twice. -/
  nodup : ledger.names.Nodup
  /-- The index of the ledger is that of the registry. -/
  position?_eq : ledger.session.registry.position? = ledger.index

variable {ledger : Ledger}

theorem keeps_opened {session : Session} (hempty : session.registry = .empty) :
    (opened session).Keeps where
  entries_eq := by rw [opened, hempty]; rfl
  nodup := List.nodup_nil
  position?_eq := by
    rw [opened, hempty]
    rfl

theorem Keeps.names_eq (h : ledger.Keeps) : ledger.session.registry.names = ledger.names := by
  rw [Registry.names, h.entries_eq, names]

/-- Performing events in the session of a ledger changes nothing in the registry. -/
theorem Keeps.perform (h : ledger.Keeps) (events : List Event) :
    { ledger with session := ledger.session.perform events }.Keeps :=
  ⟨h.entries_eq, h.nodup, h.position?_eq⟩

/-- An entry whose name is free can be entered. -/
theorem Keeps.enter (h : ledger.Keeps) {entry : RegistryEntry}
    (hfree : entry.name ∉ ledger.session.registry.names) {after : Session}
    (hafter : after.registry = ⟨ledger.session.registry.entries ++ [entry]⟩) :
    { ledger.enter entry with session := after }.Keeps where
  entries_eq := by
    show after.registry.entries = ledger.accepted ++ [entry]
    rw [hafter, h.entries_eq]
  nodup := by
    show ((ledger.accepted ++ [entry]).map RegistryEntry.name).Nodup
    rw [h.names_eq] at hfree
    rw [List.map_append, List.map_singleton, ← List.concat_eq_append]
    exact h.nodup.concat hfree
  position?_eq := by
    show after.registry.position? =
      Function.update ledger.index entry.name (some ledger.accepted.length)
    rw [hafter, Registry.position?_concat hfree, h.position?_eq, Registry.size, h.entries_eq]

theorem step_of_ne_drain {step : Step} (hdrain : step ≠ .drain) :
    ledger.step step = ledger.take step := by
  cases step with
  | drain => exact absurd rfl hdrain
  | _ => rfl

/-- **A step keeps the ledger**: what is accepted is entered, and what is refused or has no entry
changes neither side. -/
theorem Keeps.step (h : ledger.Keeps) (step : Step) : (ledger.step step).Keeps := by
  have hne : ∀ {entry}, ledger.session.attempted? step = some entry → step ≠ .drain := by
    rintro entry hattempted rfl
    cases hattempted
  cases ledger.session.effect step with
  | accepts hattempted hfree hstep =>
    rw [step_of_ne_drain (hne hattempted), take, hattempted, hstep]
    exact h.enter hfree rfl
  | refuses hattempted htaken _ hstep =>
    rw [step_of_ne_drain (hne hattempted), take, hattempted, hstep]
    exact h.perform _
  | performs hattempted hdrain hstep =>
    rw [step_of_ne_drain hdrain, take, hattempted, hstep]
    exact h.perform _
  | drains hdrain =>
    rw [hdrain]
    exact keeps_opened rfl

/-- **A run keeps the ledger.** -/
theorem Keeps.run (h : ledger.Keeps) (steps : List Step) : (ledger.run steps).Keeps := by
  induction steps generalizing ledger with
  | nil => exact h
  | cons step steps ih => exact ih (h.step step)

/-- What a ledger says about the registry of its session. -/
structure Sound (ledger : Ledger) : Prop where
  /-- The entries are the accepted ones, in the order of acceptance. -/
  entries_eq : ledger.session.registry.entries = ledger.accepted
  /-- The positions that the registry has for names are those of the index. -/
  position?_eq : ledger.session.registry.position? = ledger.index
  /-- The index has the accepted names. -/
  isSome_index_iff : ∀ name, (ledger.index name).isSome ↔ name ∈ ledger.names
  /-- Positions are inside the list of entries. -/
  lt_size : ∀ name position, ledger.index name = some position →
    position < ledger.session.registry.size
  /-- No two names have the same position. -/
  injective : ∀ name name' position, ledger.index name = some position →
    ledger.index name' = some position → name = name'
  /-- Every position is that of a name. -/
  surjective : ∀ position < ledger.session.registry.size, ∃ name, ledger.index name = some position
  /-- The registry contains the accepted names. -/
  contains_iff : ∀ name, ledger.session.registry.contains name ↔ name ∈ ledger.names
  /-- The entry of a name is the one at its position. -/
  find?_eq_bind : ∀ name,
    ledger.session.registry.find? name = (ledger.index name).bind (ledger.accepted[·]?)
  /-- It is the first accepted entry of the name. -/
  find?_eq : ∀ name,
    ledger.session.registry.find? name = ledger.accepted.find? (·.name == name)
  /-- The owner of a name is the host of that entry. -/
  owner?_eq : ∀ name, ledger.session.registry.owner? name =
    (ledger.accepted.find? (·.name == name)).bind RegistryEntry.host

theorem Keeps.index_eq_some_iff (h : ledger.Keeps) {name : String} {position : Nat} :
    ledger.index name = some position ↔ ledger.names[position]? = some name := by
  have hnodup : ledger.session.registry.names.Nodup := by
    rw [h.names_eq]
    exact h.nodup
  rw [← h.position?_eq, Registry.position?_eq_some_iff hnodup, h.names_eq]

/-- A registry that is what its ledger says behaves as it says. -/
theorem Keeps.sound (h : ledger.Keeps) : ledger.Sound := by
  have hsize : ledger.session.registry.size = ledger.names.length := by
    rw [Registry.size, h.entries_eq, names, List.length_map]
  refine ⟨h.entries_eq, h.position?_eq, fun name => ?_, fun name position hposition => ?_,
    fun name name' position hposition hposition' => ?_, fun position hposition => ?_,
    fun name => ?_, fun name => ?_, fun name => ?_, fun name => ?_⟩
  · rw [← h.position?_eq, Registry.isSome_position?_iff, h.names_eq]
  · rw [h.index_eq_some_iff] at hposition
    rw [hsize]
    exact (List.getElem?_eq_some_iff.mp hposition).1
  · rw [h.index_eq_some_iff] at hposition hposition'
    exact Option.some.inj (hposition.symm.trans hposition')
  · rw [hsize] at hposition
    exact ⟨ledger.names[position], h.index_eq_some_iff.mpr (List.getElem?_eq_getElem hposition)⟩
  · rw [Registry.contains_iff_mem_names, h.names_eq]
  · rw [Registry.find?_eq_bind_position?, h.position?_eq, h.entries_eq]
  · rw [Registry.find?, h.entries_eq]
  · rw [Registry.owner?, Registry.find?, h.entries_eq]

/-! ## Calls are runs of steps -/

/-- The session of a ledger takes the steps of the ledger. -/
theorem session_step (ledger : Ledger) (step : Step) :
    (ledger.step step).session = (ledger.session.step step).2 := by
  by_cases hdrain : step = .drain
  · rw [hdrain]
    rfl
  · rw [step_of_ne_drain hdrain, take]
    cases ledger.session.attempted? step with
    | none => rfl
    | some entry =>
      dsimp only
      split
      · rfl
      · rfl

theorem session_run (ledger : Ledger) (steps : List Step) :
    (ledger.run steps).session =
      steps.foldl (fun session step => (session.step step).2) ledger.session := by
  induction steps generalizing ledger with
  | nil => rfl
  | cons step steps ih =>
    rw [List.foldl_cons, ← session_step]
    exact ih (ledger.step step)

theorem run_append (ledger : Ledger) (steps later : List Step) :
    ledger.run (steps ++ later) = (ledger.run steps).run later :=
  List.foldl_append

/-- Until the registry is emptied, nothing that was accepted is lost. -/
theorem accepted_isPrefix_run {steps : List Step} (hdrain : ∀ step ∈ steps, step ≠ .drain) :
    ledger.accepted <+: (ledger.run steps).accepted := by
  induction steps generalizing ledger with
  | nil => exact List.prefix_rfl
  | cons step steps ih =>
    rw [List.forall_mem_cons] at hdrain
    have hstep : ledger.accepted <+: (ledger.step step).accepted := by
      rw [step_of_ne_drain hdrain.1, take]
      cases ledger.session.attempted? step with
      | none => exact List.prefix_rfl
      | some entry =>
        dsimp only
        split
        · exact List.prefix_append _ _
        · exact List.prefix_rfl
    exact hstep.trans (ih hdrain.2)

/-- The steps of an export fill the registry. -/
theorem session_run_fillingSteps (ledger : Ledger) (scene : Scene) :
    (ledger.run (scene.fillingSteps ledger.session.settings.materialMode)).session =
      ledger.session.filled scene := by
  rw [session_run, Scene.fillingSteps, List.foldl_cons, List.foldl_map]
  rfl

/-- No run changes the settings. -/
theorem settings_run (ledger : Ledger) (steps : List Step) :
    (ledger.run steps).session.settings = ledger.session.settings := by
  induction steps generalizing ledger with
  | nil => rfl
  | cons step steps ih =>
    rw [← Session.settings_step ledger.session step, ← session_step]
    exact ih (ledger.step step)

/-- **A call is a run of its steps.** -/
theorem session_run_steps (ledger : Ledger) (call : Call) :
    (ledger.run (call.steps ledger.session.settings.materialMode)).session =
      ledger.session.call call := by
  cases call with
  | register entry => exact session_step ledger (.register entry)
  | convert material => exact session_step ledger (.convert material)
  | background world => exact session_step ledger (.background world)
  | materials scene =>
    have hfilled := ledger.session_run_fillingSteps scene
    rw [Call.steps, run_append]
    show { (ledger.run _).session with registry := .empty } = _
    rw [hfilled]
    rfl

/-- Calls in a row are runs in a row. -/
theorem session_run_flatMap_steps (ledger : Ledger) (calls : List Call) :
    (ledger.run (calls.flatMap (Call.steps ledger.session.settings.materialMode))).session =
      calls.foldl Session.call ledger.session := by
  induction calls generalizing ledger with
  | nil => rfl
  | cons call calls ih =>
    rw [List.flatMap_cons, run_append, List.foldl_cons, ← session_run_steps, ← ih, settings_run]

/-! ## The ledger is sound -/

/-- What the next call does to a ledger. -/
structure Steady (ledger : Ledger) : Prop where
  /-- A record is accepted exactly if its name has not been accepted. -/
  accepted_iff : ∀ step entry, ledger.session.attempted? step = some entry →
    ((ledger.session.step step).1 = true ↔ entry.name ∉ ledger.names)
  /-- What is refused changes neither the registry nor the textures. -/
  refused : ∀ step entry, ledger.session.attempted? step = some entry →
    (ledger.session.step step).1 = false →
      (ledger.session.step step).2.registry = ledger.session.registry ∧
        (ledger.session.step step).2.textures = ledger.session.textures
  /-- A registration that is refused changes nothing at all. -/
  refused_register : ∀ name host record,
    (ledger.session.register name host record).1 = false →
      (ledger.session.register name host record).2 = ledger.session
  /-- An export gives the records of all that was accepted until its end, in the order of
  acceptance, and leaves an empty registry. -/
  drained : ∀ scene,
    let filled := ledger.run (scene.fillingSteps ledger.session.settings.materialMode)
    ledger.accepted <+: filled.accepted ∧
      ledger.session.writeMaterials scene =
        (filled.accepted.map RegistryEntry.record,
          { filled.session with registry := .empty })

/-- A registry that is what its ledger says goes on as it says. -/
theorem Keeps.steady (h : ledger.Keeps) : ledger.Steady where
  accepted_iff := by
    intro step entry hattempted
    rw [← h.names_eq]
    rcases ledger.session.step_of_attempted? hattempted with
      ⟨events, hfree, hstep⟩ | ⟨events, htaken, -, hstep⟩
    · rw [hstep]
      exact iff_of_true rfl hfree
    · rw [hstep]
      exact iff_of_false Bool.false_ne_true (not_not.mpr htaken)
  refused := by
    intro step entry hattempted hadded
    rcases ledger.session.step_of_attempted? hattempted with
      ⟨events, -, hstep⟩ | ⟨events, -, himages, hstep⟩
    · rw [hstep] at hadded
      cases hadded
    · rw [hstep]
      refine ⟨rfl, ?_⟩
      rw [Session.textures_perform, himages]
      rfl
  refused_register := by
    intro name host record hadded
    by_cases htaken : name ∈ ledger.session.registry.names
    · rw [Session.register_of_mem_names htaken]
    · have hfree : (⟨name, host, record⟩ : RegistryEntry).name ∉ ledger.session.registry.names :=
        htaken
      have haccepted : ledger.session.register name host record = _ :=
        Session.register_of_notMem_names hfree
      rw [haccepted] at hadded
      cases hadded
  drained := by
    intro scene
    refine ⟨accepted_isPrefix_run ?_, ?_⟩
    · rw [Scene.fillingSteps, List.forall_mem_cons, List.forall_mem_map]
      exact ⟨nofun, fun _ _ => nofun⟩
    · have hkeeps := h.run (scene.fillingSteps ledger.session.settings.materialMode)
      rw [Session.writeMaterials_eq, ← session_run_fillingSteps, Registry.records,
        hkeeps.entries_eq]

end Ledger

/-- **The registry is what was accepted.** If the registry is empty, then after any steps, which may
come from any calls and end in the middle of an export, it consists of the entries that were
accepted since it was last emptied, in the order of acceptance and with an index that has exactly
their names. What is accepted next is what has another name, and what is refused changes nothing. An
export gives the records of all that was accepted before its end and empties the registry. -/
theorem Session.ledger_sound (session : Session) (hempty : session.registry = .empty)
    (steps : List Step) :
    let ledger := (Ledger.opened session).run steps
    ledger.Sound ∧ ledger.Steady ∧
      ∀ calls : List Call, steps = calls.flatMap (Call.steps session.settings.materialMode) →
        ledger.session = calls.foldl call session := by
  have hkeeps := (Ledger.keeps_opened hempty).run steps
  refine ⟨hkeeps.sound, hkeeps.steady, ?_⟩
  rintro calls rfl
  exact (Ledger.opened session).session_run_flatMap_steps calls

/-- A red that is registered before an export begins, and once more in the course of it. -/
def Step.twoReds : List Step :=
  [.register ⟨"Red", some "Ruby", reservedMaterial⟩, .begin,
    .register ⟨"Red", some "Coral", placeholderMaterial "Red"⟩]

/-- The first of the two reds is kept, in front of the reserved record. -/
theorem Session.ledger_sound_twoReds :
    (start {}).registry = .empty ∧
      let ledger := (Ledger.opened (start {})).run Step.twoReds
      ledger.names = ["Red", "default"] ∧
        ledger.session.registry.position? "default" = some 1 ∧
        ledger.session.registry.owner? "Red" = some "Ruby" := by
  have hempty : (start {}).registry = .empty := rfl
  have hsound := (ledger_sound (start {}) hempty Step.twoReds).1
  refine ⟨hempty, by decide +kernel, ?_, ?_⟩
  · rw [hsound.position?_eq]
    decide +kernel
  · rw [hsound.owner?_eq]
    decide +kernel

end ShadingExport
