import ShadingExport.Snapshot.Basic

/-!
# Command-line arguments

Arguments come in pairs of a flag and a value; a value may look like a flag. The last value of a
flag counts, but every value of a mode has to be a mode. What the command line leaves open is taken
from the scene's own settings, then from the defaults.
-/

namespace ShadingExport

/-- The flags of the command line. -/
inductive Flag where
  /-- The file of the scene. -/
  | sceneJson
  /-- The file to write. -/
  | output
  /-- How materials are written. -/
  | materialMode
  /-- The material family of glossy shaders. -/
  | glossyMode
  /-- The directory of the textures. -/
  | textureDirectory
  deriving DecidableEq, Repr

namespace Flag

/-- The flag that is spelled so; the output file has a short spelling too. -/
def ofText? : String → Option Flag
  | "--scene-json" => some .sceneJson
  | "--output" => some .output
  | "-o" => some .output
  | "--material-mode" => some .materialMode
  | "--glossy-mode" => some .glossyMode
  | "--texture-dir" => some .textureDirectory
  | _ => none

/-- The long spelling of a flag. -/
def text : Flag → String
  | .sceneJson => "--scene-json"
  | .output => "--output"
  | .materialMode => "--material-mode"
  | .glossyMode => "--glossy-mode"
  | .textureDirectory => "--texture-dir"

@[simp] theorem ofText?_text (flag : Flag) : ofText? flag.text = some flag := by
  cases flag <;> rfl

end Flag

/-- What is wrong with a list of arguments. -/
inductive ArgumentError where
  /-- An argument in the place of a flag is none. -/
  | unknownArgument (text : String)
  /-- The list ends behind a flag. -/
  | missingValue (flag : Flag)
  /-- The value of a mode is no mode. -/
  | invalidMode (cause : ModeError)
  deriving DecidableEq, Repr

/-- The text of an error in the arguments. -/
def ArgumentError.message : ArgumentError → String
  | .unknownArgument text =>
    s!"unknown argument: {text} (supported: --scene-json <scene.json>, --output <file>, "
      ++ "--material-mode <convert|flatten>, "
      ++ "--glossy-mode <rough-conductor|blinn-phong|phong|metal>, --texture-dir <dir>)"
  | .missingValue flag => s!"missing value for {flag.text}"
  | .invalidMode cause => cause.message

/-- What a command line says; a flag that is not given has no value. -/
structure Arguments where
  /-- The file of the scene. -/
  sceneJson : Option String := none
  /-- The file to write. -/
  output : Option String := none
  /-- How materials are written. -/
  materialMode : Option MaterialMode := none
  /-- The material family of glossy shaders. -/
  glossyMode : Option GlossyMode := none
  /-- The directory of the textures. -/
  textureDirectory : Option String := none
  deriving DecidableEq, Repr, Inhabited

namespace Arguments

/-- Takes the value of a flag, in place of an earlier one. -/
def set (arguments : Arguments) (flag : Flag) (value : String) : Except ArgumentError Arguments :=
  match flag with
  | .sceneJson => .ok { arguments with sceneJson := some value }
  | .output => .ok { arguments with output := some value }
  | .materialMode =>
    match MaterialMode.parse value with
    | .ok mode => .ok { arguments with materialMode := some mode }
    | .error cause => .error (.invalidMode cause)
  | .glossyMode =>
    match GlossyMode.parse value with
    | .ok mode => .ok { arguments with glossyMode := some mode }
    | .error cause => .error (.invalidMode cause)
  | .textureDirectory => .ok { arguments with textureDirectory := some value }

/-- Reads a list of arguments on top of earlier ones. -/
def parseFrom (arguments : Arguments) : List String → Except ArgumentError Arguments
  | [] => .ok arguments
  | [text] =>
    match Flag.ofText? text with
    | some flag => .error (.missingValue flag)
    | none => .error (.unknownArgument text)
  | text :: value :: rest =>
    match Flag.ofText? text with
    | some flag =>
      match arguments.set flag value with
      | .ok next => next.parseFrom rest
      | .error error => .error error
    | none => .error (.unknownArgument text)

/-- Reads a list of arguments. -/
def parse (arguments : List String) : Except ArgumentError Arguments :=
  parseFrom {} arguments

/-- The settings of a run, field by field: the command line's, else the scene's own, else the
default. -/
def settings (arguments : Arguments) (scene : Scene) : Settings :=
  let stored := scene.settings.getD {}
  { materialMode := arguments.materialMode.getD stored.materialMode
    glossyMode := arguments.glossyMode.getD stored.glossyMode
    textureDirectory := arguments.textureDirectory.getD stored.textureDirectory }

end Arguments

end ShadingExport
