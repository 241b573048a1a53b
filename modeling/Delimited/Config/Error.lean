/-!
# Configuration errors

Why a configuration could not be put together.
-/

namespace Delimited.Config

/-- Why a path expression for a key is refused. -/
inductive PathFault where
  /-- It does not start with a name. -/
  | noName
  /-- No number follows an opening bracket. -/
  | noIndex
  /-- The number in brackets is too large. -/
  | indexRange
  /-- Some other character stands where a dot or bracket should. -/
  | strayCharacter
  deriving DecidableEq, Repr

/-- The word that reports a refused path. -/
def PathFault.message : PathFault → String
  | .noName => "IsA"
  | .noIndex => "Digit"
  | .indexRange => "Map on Result"
  | .strayCharacter => "Char"

/-- Why a configuration could not be put together. -/
inductive Error where
  /-- The key of an override is not a path. -/
  | path (fault : PathFault)
  /-- A value does not have the type that its key asks for. -/
  | type (found expected key : String) (origin : Option String)
  /-- The values do not form a configuration. -/
  | message (text : String)
  /-- A file cannot be read. -/
  | file (reason : String)
  /-- A text is not a document of the configuration language. -/
  | document (origin : Option String)
  /-- A text is a document of the configuration language, but not a table. -/
  | root (found : String) (origin : Option String)
  deriving DecidableEq, Repr

/-- How a text that reports an error speaks of the file that a value comes from. -/
def inFile : Option String → String
  | some origin => " in " ++ origin
  | none => ""

/-- The text that reports a configuration error. -/
def Error.text : Error → String
  | .path fault => fault.message
  | .type found expected key origin =>
      "invalid type: " ++ found ++ ", expected " ++ expected ++ " for key \x60" ++ key ++ "\x60" ++
        inFile origin
  | .message text => text
  | .file reason => reason
  | .document _ => "TOML parse error"
  | .root found origin =>
      "invalid type: " ++ found ++ ", expected a map" ++ inFile origin ++ inFile origin

end Delimited.Config
