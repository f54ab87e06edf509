import ShadingExport.CommandLine.Workspace
import ShadingExport.Proofs.DistinctKeys

/-!
# The files that a run changes

A run writes one file at most, the one that its arguments name for the output, and does so last: a
run that fails, or that prints its result, leaves all files as they are (`Workspace.run_leaves`).
So whatever a run changes is at one place, and no file gets lost (`Workspace.run_changes`).
-/

namespace ShadingExport

/-- The path that a command line names for the output. -/
def Arguments.outputOf (arguments : List String) : Option String :=
  (Arguments.parse arguments).toOption.bind Arguments.output

namespace Workspace

variable {workspace earlier after : Workspace} {path key text : String}

/-- The changes since an earlier workspace are the files that it lacks or has with another text. -/
theorem get?_changesSince_eq_some_iff :
    (workspace.changesSince earlier).get? key = some text ↔
      workspace.files.get? key = some text ∧ earlier.files.get? key ≠ some text := by
  have hkeys : ((workspace.files.entries.filter fun entry =>
      earlier.files.get? entry.1 != some entry.2).map Prod.fst).Nodup :=
    workspace.files.nodup_keys.sublist (List.filter_sublist.map Prod.fst)
  have hentry : (key, text) ∈ workspace.files.entries ↔ workspace.files.get? key = some text :=
    (lookup_eq_some_iff_of_nodup workspace.files.nodup_keys).symm
  rw [changesSince, Table.get?_ofList_eq_some_iff hkeys, List.mem_filter, bne_iff_ne, hentry]

/-! ## Reading and writing -/

/-- A computation that reads a file leaves all files as they are. -/
theorem run_read (workspace : Workspace) (path : String) :
    (access.read path).run workspace = pure (workspace.read? path, workspace) := rfl

/-- A file is written where its path leads, unless there is a directory. -/
theorem write?_eq_some_iff :
    workspace.write? path text = some after ↔
      ∃ location, workspace.locate? path = some location ∧
        workspace.isDirectory location = false ∧
        after = ⟨workspace.files.insert location.key text⟩ := by
  unfold write?
  cases workspace.locate? path with
  | none => simp
  | some location =>
    cases hfile : workspace.isDirectory location with
    | true => simp [hfile]
    | false =>
      simp only [hfile, Bool.false_eq_true, if_false, Option.some.injEq, exists_eq_left', true_and]
      exact eq_comm

/-- A computation that writes a file learns whether that worked, and goes on with the files as they
were if it did not. -/
theorem run_write (workspace : Workspace) (path text : String) :
    (access.write path text).run workspace =
      (workspace.write? path text).elim (false, workspace) fun after => (true, after) := by
  dsimp only [access]
  rw [StateT.run_bind, StateT.run_get, pure_bind]
  cases workspace.write? path text with
  | none => rfl
  | some after => rfl

/-! ## Runs -/

/-- What a run may leave if its arguments name `output` for the output. -/
inductive Leaves (workspace : Workspace) (output : Option String) : Outcome × Workspace → Prop where
  /-- All files are as they were. -/
  | unchanged (outcome : Outcome) : Leaves workspace output (outcome, workspace)
  /-- The file at the path, which is no directory, has a new text, and nothing is printed. -/
  | written {outcome : Outcome} {path : String} {location : Location} (text : String)
    (hpath : output = some path) (hlocation : workspace.locate? path = some location)
    (hfile : workspace.isDirectory location = false) (hfailure : outcome.failure = none)
    (houtput : outcome.output = "") :
    Leaves workspace output (outcome, ⟨workspace.files.insert location.key text⟩)

theorem exportTo_leaves (workspace : Workspace) (arguments : Arguments) (scene : Scene) :
    workspace.Leaves arguments.output ((Run.exportTo access arguments scene).run workspace) := by
  unfold Run.exportTo
  cases arguments.output with
  | none => exact .unchanged _
  | some path =>
    dsimp only
    -- What is written does not matter here.
    generalize ((Session.start (arguments.settings scene)).writeScene scene).1.toJson.pretty = text
    rw [StateT.run_bind, run_write]
    cases hwrite : workspace.write? path text with
    | none => exact .unchanged _
    | some after =>
      obtain ⟨location, hlocation, hfile, rfl⟩ := write?_eq_some_iff.mp hwrite
      exact .written text rfl hlocation hfile rfl rfl

/-- **A run writes the output, or nothing.** Up to the export it only reads. -/
theorem run_leaves (workspace : Workspace) (arguments : List String) :
    workspace.Leaves (Arguments.outputOf arguments) (workspace.run arguments) := by
  unfold run Run.run Arguments.outputOf
  cases Arguments.parse arguments with
  | error cause => exact .unchanged _
  | ok parsed =>
    dsimp only
    cases parsed.sceneJson with
    | none => exact .unchanged _
    | some path =>
      rw [StateT.run_bind, run_read, pure_bind]
      cases workspace.read? path with
      | none => exact .unchanged _
      | some text =>
        dsimp only
        cases Scene.load? text with
        | none => exact .unchanged _
        | some scene => exact exportTo_leaves workspace parsed scene

/-- **A run changes one file at most**, the one that its arguments name for the output; if it fails,
or prints its result, it changes none. Every file that was there is there afterwards. -/
theorem run_changes (workspace : Workspace) (arguments : List String) :
    let (outcome, after) := workspace.run arguments
    (∀ key text, (after.changesSince workspace).get? key = some text →
      outcome.failure = none ∧ outcome.output = "" ∧
        ∃ path location, Arguments.outputOf arguments = some path ∧
          workspace.locate? path = some location ∧ location.key = key) ∧
      ∀ key, (workspace.files.get? key).isSome → (after.files.get? key).isSome := by
  have hleaves := workspace.run_leaves arguments
  generalize workspace.run arguments = result at hleaves
  cases hleaves with
  | unchanged outcome =>
    refine ⟨fun key text hchange => ?_, fun _ hpresent => hpresent⟩
    obtain ⟨hnew, hold⟩ := get?_changesSince_eq_some_iff.mp hchange
    exact absurd hnew hold
  | @written outcome path location text hpath hlocation hfile hfailure houtput =>
    constructor
    · intro key changed hchange
      obtain ⟨hnew, hold⟩ := get?_changesSince_eq_some_iff.mp hchange
      rw [Table.get?_insert] at hnew
      by_cases hkey : key = location.key
      · exact ⟨hfailure, houtput, path, location, hpath, hlocation, hkey.symm⟩
      · rw [if_neg hkey] at hnew
        exact absurd hnew hold
    · intro key hpresent
      rw [Table.get?_insert]
      by_cases hkey : key = location.key
      · rw [if_pos hkey]
        rfl
      · rwa [if_neg hkey]

end Workspace

end ShadingExport
