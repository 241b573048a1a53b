import Delimited.Config.Library
import Delimited.Event

/-!
# Loading settings

Settings come from layers: built-in defaults, files in the order in which they are added, and single
keys, which go on top of all files whenever they are set. A library merges the layers, and only what
they make up has to make sense: reader options are judged once, when everything is merged.

A file that is named explicitly must be there; a project file may be missing.
-/

namespace Delimited.Config

/-- The built-in settings. -/
def defaultText : String :=
  "# Built-in defaults for simcsv. User files and command-line flags are layered on top.\n" ++
  "\n" ++
  "[reader]\n" ++
  "# Physical lines starting with this character are ignored.\n" ++
  "comment_char = \"#\"\n" ++
  "delimiter = \",\"\n" ++
  "# Drop empty physical lines instead of reporting them as records with no fields.\n" ++
  "skip_empty = true\n" ++
  "# Strip whitespace around fields that are not quoted.\n" ++
  "trim = false\n" ++
  "\n" ++
  "[output]\n" ++
  "# One of: json, jsonl, yaml, tag\n" ++
  "format = \"json\"\n"

/-- The name of a project file. -/
def projectFile : String := "simcsv.toml"

/-- Layers that a library is to merge. -/
structure Loader (library : Library) where
  builder : library.Builder

namespace Loader

variable {library : Library}

/-- A loader with the built-in settings. -/
def new : Loader library :=
  { builder := library.addSource (.text defaultText) library.empty }

/-- Add a file that must be there. -/
def withFile (loader : Loader library) (path : String) : Loader library :=
  { builder := library.addSource (.file path true) loader.builder }

/-- The path of the project file of a directory. -/
def projectPath (directory : String) : String :=
  FilePath.join directory projectFile

/-- Add the project file of a directory, which may be missing. -/
def withProjectFile (loader : Loader library) (directory : String) : Loader library :=
  { builder := library.addSource (.file (projectPath directory) false) loader.builder }

/-- What is noted when the project file of a directory is added. -/
def projectEvent (files : Files) (directory : String) : Event :=
  let path := projectPath directory
  .projectFile path (files path).isFile

/-- Set a single key. -/
def setOverride (loader : Loader library) (key : String) (value : Value) :
    Except Delimited.Error (Loader library) :=
  match library.setOverride key value loader.builder with
  | .error error => .error (.config error)
  | .ok builder => .ok { builder }

/-- Merge the layers, read the settings and judge the reader options. The directory is the working
directory, by its parts. -/
def build (loader : Loader library) (files : Files) (directory : List String) :
    Except Delimited.Error Settings :=
  match (library.build files directory loader.builder).bind library.settings with
  | .error error => .error (.config error)
  | .ok settings =>
      match settings.reader.fault? with
      | some fault => .error (.invalidOption fault)
      | none => .ok settings

end Loader

end Delimited.Config
