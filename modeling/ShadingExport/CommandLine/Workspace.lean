import ShadingExport.CommandLine.Run
import ShadingExport.TextureDirectory

/-!
# Workspaces

A workspace is a tree of text files below one directory, in which a run can take place as a pure
function. Paths are relative to the directory and walked part by part: every part but the last has
to be a directory, and a directory can neither be read nor written as a file. Paths and their parts
have a greatest size in bytes.
-/

namespace ShadingExport

/-- Text files by their paths below one directory. -/
structure Workspace where
  /-- The files. -/
  files : Table String

namespace Workspace

/-- A path below the directory, with its last part first. -/
abbrev Location := List String

/-- The name of a location. -/
def Location.key (location : Location) : String := "/".intercalate location.reverse

/-- There is a directory at a location: the root, or one that a file lies in. -/
def isDirectory (workspace : Workspace) (location : Location) : Bool :=
  location.isEmpty || workspace.files.keys.any (String.startsWith · (location.key ++ "/"))

/-- The greatest number of bytes in a part of a path. -/
def maximalPartSize : Nat := 255

/-- The greatest number of bytes in a path. -/
def maximalPathSize : Nat := 4095

/-- Walks a path from a location. -/
def walk? (workspace : Workspace) (location : Location) : List String → Option Location
  | [] => some location
  | part :: rest =>
    -- Even an empty part or a single dot needs a directory to stand in.
    if !workspace.isDirectory location then none
    else if part = "" || part = "." then workspace.walk? location rest
    else if part = ".." then
      match location with
      | [] => none
      | _ :: parent => workspace.walk? parent rest
    else if part.utf8ByteSize > maximalPartSize then none
    else workspace.walk? (part :: location) rest

/-- The location of a relative path. -/
def locate? (workspace : Workspace) (path : String) : Option Location :=
  if path.isEmpty || path.startsWith "/" || path.utf8ByteSize > maximalPathSize then none
  else workspace.walk? [] ((pathParts path.toList).map String.ofList)

/-- The text of the file at a path. -/
def read? (workspace : Workspace) (path : String) : Option String :=
  (workspace.locate? path).bind fun location => workspace.files.get? location.key

/-- Writes the file at a path, unless there is a directory. -/
def write? (workspace : Workspace) (path text : String) : Option Workspace :=
  match workspace.locate? path with
  | none => none
  | some location =>
    if workspace.isDirectory location then none
    else some ⟨workspace.files.insert location.key text⟩

/-- Access to the files of the workspace that a computation carries along. -/
def access : FileAccess (StateM Workspace) :=
  { read := fun path => do return (← get).read? path
    write := fun path text => do
      match (← get).write? path text with
      | none => return false
      | some workspace =>
        set workspace
        return true }

/-- Runs the program in a workspace. -/
def run (workspace : Workspace) (arguments : List String) : Outcome × Workspace :=
  (Run.run access arguments).run workspace

/-- The files of a workspace that are new or have another text than in an earlier one. -/
def changesSince (workspace earlier : Workspace) : Table String :=
  .ofList (workspace.files.entries.filter fun entry =>
    earlier.files.get? entry.1 != some entry.2)

end Workspace

end ShadingExport
