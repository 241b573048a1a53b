import Delimited.Config.Library
import Delimited.Toml.Document

/-!
# Merging layers

The library that the program runs with. Sources merge into one tree, in order, and then keys are set
in it. The sources merge among themselves first, and the keys of what they make up are then set like
those of a source: one that is a path only in lower case becomes one now.

A file is looked for under its name and then under its name with the extension of the configuration
language, as a path from the root: the length of the working directory counts. A file that is
required must be there and must be text. Of one that is not, only its language is judged.
-/

namespace Delimited.Config

/-- The extension of configuration files. -/
def extension : String := "toml"

/-- Layers that are to be merged. -/
structure Builder where
  /-- The sources, in the order of their layers. -/
  sources : List Source := []
  /-- The keys that are set on top of the sources. -/
  overrides : List (Path × Tree) := []

namespace Builder

/-- Add a source behind the others. -/
def addSource (source : Source) (builder : Builder) : Builder :=
  { builder with sources := builder.sources ++ [source] }

/-- Set a single key, which must be a path. A path that is set already keeps its place. -/
def setOverride (key : String) (value : Value) (builder : Builder) : Except Error Builder :=
  match Path.parse key with
  | .error fault => .error (.path fault)
  | .ok path =>
      .ok { builder with overrides := Assoc.set path (Tree.ofValue none value) builder.overrides }

end Builder

/-- The path from the root and the bytes of a configuration file: the file of the name, or else of the
name with the extension. -/
def findFile? (files : Files) (directory : List String) (name : String) :
    Option (String × List UInt8) :=
  let path := FilePath.absolute directory name
  match files path with
  | .file bytes => some (path, bytes)
  | _ =>
      match FilePath.withExtension? path extension with
      | none => none
      | some path =>
          match files path with
          | .file bytes => some (path, bytes)
          | _ => none

/-- The text of a configuration file with the path that stands for it in messages. -/
def readFile (files : Files) (directory : List String) (name : String) :
    Except Error (String × String) :=
  match findFile? files directory name with
  | none => .error (.file ("configuration file \"" ++ name ++ "\" not found"))
  | some (path, bytes) =>
      match String.fromUTF8? bytes.toByteArray with
      | none => .error (.file StreamError.notUtf8.message)
      | some text => .ok (FilePath.relativeTo directory path, text)

/-- The keys of a text. The path is the one that stands for it in messages, if it is that of a file. -/
def readDocument (origin : Option String) (text : String) : Except Error Entries :=
  match Toml.parse? text with
  | none => .error (.document origin)
  | some (.table entries) => .ok entries
  | some value => .error (.root (value.described wording) origin)

namespace Source

/-- The keys of a source, and the path that stands for it in messages, if it is that of a file. -/
def read (files : Files) (directory : List String) :
    Source → Except Error (Option String × Entries)
  | .text content => (readDocument none content).map fun entries ↦ (none, entries)
  | .file path required =>
      match readFile files directory path with
      | .error error => if required then .error error else .ok (none, [])
      | .ok (origin, content) =>
          (readDocument (some origin) content).map fun entries ↦ (some origin, entries)

/-- The paths at which a source is looked for. -/
def paths (directory : List String) : Source → List String
  | .text _ => []
  | .file path _ =>
      let path := FilePath.absolute directory path
      path :: (FilePath.withExtension? path extension).toList

end Source

/-- Set the keys of a source in a tree. -/
def mergeSource (origin : Option String) (entries : Entries) (tree : Tree) : Tree :=
  tree.setKeys (Tree.ofEntries origin entries)

/-- Merge sources into a tree, in order. -/
def mergeSources (files : Files) (directory : List String) : List Source → Tree → Except Error Tree
  | [], tree => .ok tree
  | source :: sources, tree => do
      let (origin, entries) ← source.read files directory
      mergeSources files directory sources (mergeSource origin entries tree)

/-- The tree that the layers of a builder merge into. -/
def Builder.merge (files : Files) (directory : List String) (builder : Builder) :
    Except Error Tree := do
  let merged ← mergeSources files directory builder.sources (.table [] none)
  let start := Tree.setKeys (.table [] none) merged.entries
  return builder.overrides.foldl (fun tree (path, value) ↦ tree.setPath path value) start

/-- The library that the program runs with. -/
def library : Library where
  Builder := Builder
  Merged := Tree
  document? text := (Toml.parse? text).bind Value.table?
  empty := {}
  addSource := Builder.addSource
  setOverride := Builder.setOverride
  collect files directory source := (source.read files directory).map Prod.snd
  build := Builder.merge
  get? tree table name := (tree.at? table name).map Tree.shape
  settings := Tree.settings

end Delimited.Config
