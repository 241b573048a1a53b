import Delimited.Config.Settings
import Delimited.Files

/-!
# Libraries that merge configurations

Settings are put together by a library, and this is what the program asks of one. A builder gathers
layers: sources, in order, and single keys that go on top of all sources. Nothing is read before the
layers are built. What they make up is read as settings.

The program runs with `Config.library`.
-/

namespace Delimited.Config

/-- A source of settings. -/
inductive Source where
  /-- A text in the configuration language. -/
  | text (text : String)
  /-- A file in the configuration language. One that is not required may be missing. -/
  | file (path : String) (required : Bool)
  deriving DecidableEq, Repr

/-- A library that merges configurations. Files are looked for from a working directory, which is
given by its parts. -/
structure Library where
  /-- What gathers layers. -/
  Builder : Type
  /-- What layers make up. -/
  Merged : Type
  /-- The entries of a text in the configuration language, if it is one. -/
  document? : String → Option Entries
  /-- A builder without layers. -/
  empty : Builder
  /-- Add a source behind the others. -/
  addSource : Source → Builder → Builder
  /-- Set a key, given by its path, on top of all sources. -/
  setOverride : (key : String) → Value → Builder → Except Error Builder
  /-- Read the keys of a source. -/
  collect : Files → (directory : List String) → Source → Except Error Entries
  /-- Read all sources and merge the layers. -/
  build : Files → (directory : List String) → Builder → Except Error Merged
  /-- The value under a name in a table. Of a value that holds others only its type is given. -/
  get? : Merged → (table name : String) → Option Value
  /-- Read settings. -/
  settings : Merged → Except Error Settings

end Delimited.Config
