import ShadingExport.CommandLine.Arguments
import ShadingExport.Json.Printer
import ShadingExport.Log
import ShadingExport.Record.Json
import ShadingExport.Session.Export
import ShadingExport.Snapshot.Document
import ShadingExport.Text.Diagnostic

/-!
# Runs of the program

A run reads the arguments, then the scene, exports it, and writes the result to a file or to its
output. It needs two things from its surroundings, reading a file and writing one, and works in
every monad that offers them. What it leaves behind is an `Outcome`: its output, its log, and the
failure that ended it, if one did.
-/

namespace ShadingExport

/-- Why a run fails. -/
inductive RunFailure where
  /-- The arguments are wrong. -/
  | arguments (cause : ArgumentError)
  /-- The arguments name no scene. -/
  | noScene
  /-- The file of the scene cannot be read. -/
  | unreadable (path : String)
  /-- The file of the scene holds no scene. -/
  | notAScene
  /-- The result cannot be written. -/
  | unwritable (path : String)
  deriving DecidableEq, Repr

/-- The text of a failure. -/
def RunFailure.message : RunFailure → String
  | .arguments cause => cause.message
  | .noScene => "--scene-json <scene.json> is required"
  | .unreadable path => s!"failed to read scene json at {path}"
  | .notAScene => "failed to parse scene json"
  | .unwritable path => s!"failed to write {path}"

/-- What a run leaves behind, apart from the files it wrote. -/
structure Outcome where
  /-- What it wrote to its output. -/
  output : String := ""
  /-- Its log, in order. -/
  log : List LogLine := []
  /-- Why it failed, if it did. -/
  failure : Option RunFailure := none
  deriving DecidableEq, Repr

namespace Outcome

/-- The exit code: one for a failure. -/
def exitCode (outcome : Outcome) : UInt32 := if outcome.failure.isSome then 1 else 0

/-- What the run wrote about itself: the log as far as the verbosity admits it, then the
failure. -/
def diagnostics (outcome : Outcome) (verbosity : Verbosity) : String :=
  LogLine.render verbosity outcome.log ++
    match outcome.failure with
    | none => ""
    | some failure => "Error: " ++ failure.message ++ "\n"

end Outcome

/-- Access to files by path. -/
structure FileAccess (m : Type → Type) where
  /-- The text of a file, if it can be read. -/
  read : String → m (Option String)
  /-- Writes a file; tells whether it could be written. -/
  write : String → String → m Bool

/-- The settings as they stand in a diagnostic. -/
def Settings.diagnostic (settings : Settings) : String :=
  "ExportSettings \x7b material_mode: " ++ settings.materialMode.label
    ++ ", glossy_mode: " ++ settings.glossyMode.label
    ++ ", texture_dir: " ++ Text.diagnostic settings.textureDirectory ++ " \x7d"

namespace Run

/-- A log line of the run itself. -/
def logLine (level : LogLevel) (message : String) : LogLine :=
  { level, target := "darts_material_export", message }

/-- The log of an export: the settings, what happened, and the copies that are due. -/
def exportLog (settings : Settings) (session : Session) : List LogLine :=
  logLine .debug ("export settings: " ++ settings.diagnostic)
    :: session.logLines
    ++ session.textures.copies.map fun copy =>
      logLine .info ("texture: " ++ copy.1 ++ " -> " ++ copy.2)

/-- Exports a scene and hands the result on, to a file if the arguments name one. -/
def exportTo {m : Type → Type} [Monad m] (files : FileAccess m) (arguments : Arguments)
    (scene : Scene) : m Outcome := do
  let settings := arguments.settings scene
  let (result, session) := (Session.start settings).writeScene scene
  -- Everything up to here is told even if the result cannot be written.
  let log := exportLog settings session
  let text := result.toJson.pretty
  match arguments.output with
  | none => return { output := text ++ "\n", log }
  | some path =>
    if ← files.write path text then
      let written := "wrote " ++ toString result.materials.length ++ " materials to " ++ path
      return { log := log ++ [logLine .info written] }
    else return { log, failure := some (.unwritable path) }

/-- Runs the program with a list of arguments. -/
def run {m : Type → Type} [Monad m] (files : FileAccess m) (arguments : List String) :
    m Outcome := do
  match Arguments.parse arguments with
  | .error cause => return { failure := some (.arguments cause) }
  | .ok arguments =>
    match arguments.sceneJson with
    | none => return { failure := some .noScene }
    | some path =>
      match ← files.read path with
      | none => return { failure := some (.unreadable path) }
      | some text =>
        match Scene.load? text with
        | none => return { failure := some .notAScene }
        | some scene => exportTo files arguments scene

end Run

end ShadingExport
