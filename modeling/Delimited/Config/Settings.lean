import Delimited.Config.Tree
import Delimited.Error
import Delimited.Mismatch
import Delimited.Output.Format

/-!
# Settings

What a configuration decides: the options of the reader and the format of the output. A tree of
settings is read generously: truth values may be numbers or words, the case of format names does
not matter, keys that mean nothing are passed over, and both parts may be arrays in place of tables.
-/

namespace Delimited

/-- The settings of the program. -/
structure Settings where
  reader : Options
  format : Format
  deriving DecidableEq, Repr

namespace Config

/-- Configurations speak of unit values, and write numbers without exponent. -/
def wording : Wording :=
  { missing := "unit value", floats := { leastPlace := none, greatestPlace := none, tie := .up } }

/-- Report a value that does not fit its place. -/
def mismatch (mismatch : Mismatch) : Error :=
  .message (mismatch.message wording)

/-- The words for the two truth values. -/
def truthOfWord? (word : String) : Option Bool :=
  if ["1", "true", "on", "yes"].contains word then some true
  else if ["0", "false", "off", "no"].contains word then some false
  else none

namespace Tree

/-- Read a character. -/
def char (tree : Tree) : Except Error Char :=
  match tree.shape.char with
  | .ok char => .ok char
  | .error reason => .error (mismatch reason)

/-- Read a truth value; the key is the one that is reported. -/
def truth (key : String) (tree : Tree) : Except Error Bool :=
  let refuse (found : Value) : Except Error Bool :=
    .error (.type (found.described wording) "a boolean" key tree.origin)
  match tree.shape with
  | .bool value => .ok value
  | .integer value => .ok (value != 0)
  | .float value => .ok (!value.isZero)
  | .string text =>
      let word := Text.lowerCase text
      match truthOfWord? word with
      | some value => .ok value
      | none => refuse (.string word)
  | found => refuse found

/-- Read what may be left out. -/
def orDefault {α : Type} (read : Tree → Except Error α) (fallback : α) :
    Option Tree → Except Error α
  | some tree => read tree
  | none => .ok fallback

/-- Read reader options from the settings that may be given for them. The keys of the truth values
are the ones that are reported. -/
def optionsOf (comment delimiter : Option Tree) (skipEmpty trim : String × Option Tree) :
    Except Error Options := do
  let defaults : Options := {}
  let comment ← orDefault char defaults.comment comment
  let delimiter ← orDefault char defaults.delimiter delimiter
  let skipEmpty ← orDefault (truth skipEmpty.1) defaults.skipEmpty skipEmpty.2
  let trim ← orDefault (truth trim.1) defaults.trim trim.2
  return { comment, delimiter, skipEmpty, trim }

/-- Read reader options. -/
def options (tree : Tree) : Except Error Options :=
  match tree with
  | .table _ _ =>
      optionsOf (tree.get? "comment_char") (tree.get? "delimiter")
        ("reader.skip_empty", tree.get? "skip_empty") ("reader.trim", tree.get? "trim")
  | .array items _ =>
      optionsOf items[0]? items[1]? ("reader[2]", items[2]?) ("reader[3]", items[3]?)
  | .leaf value _ => .error (mismatch (.type value "struct ReaderOptions"))

/-- The format of a name in any case. -/
def formatOfName (name : String) : Except Error Format :=
  match Format.ofName? (Text.lowerCase name) with
  | some format => .ok format
  | none => .error (.message ("enum OutputFormat does not have variant constructor " ++ name))

/-- Read a format: a name, or a table that has the name as its only key. -/
def format (tree : Tree) : Except Error Format :=
  match tree with
  | .leaf (.string name) _ => formatOfName name
  | .table [(name, _)] _ => formatOfName name
  | _ =>
      .error (.message ("value of enum OutputFormat should be represented by either string or " ++
        "table with exactly one key"))

/-- Report a setting that must not be left out. -/
def missingField (name : String) : Error :=
  .message ("missing field \x60" ++ name ++ "\x60")

/-- Read the output settings. -/
def outputFormat (tree : Tree) : Except Error Format :=
  match tree with
  | .table _ _ =>
      match tree.get? "format" with
      | some tree => tree.format
      | none => .error (missingField "format")
  | .array [] _ => .error (mismatch (.length 0 "struct OutputConfig with 1 element"))
  | .array (tree :: _) _ => tree.format
  | .leaf value _ => .error (mismatch (.type value "struct OutputConfig"))

/-- Read all settings. -/
def settings (tree : Tree) : Except Error Settings := do
  let reader ←
    match tree.get? "reader" with
    | some tree => tree.options
    | none => .error (missingField "reader")
  let format ←
    match tree.get? "output" with
    | some tree => tree.outputFormat
    | none => .error (missingField "output")
  return { reader, format }

end Tree

end Config

namespace Settings

/-- A truth value as logs show it. -/
def shownTruth (value : Bool) : String :=
  if value then "true" else "false"

/-- A format as logs show it. -/
def shownFormat : Format → String
  | .json => "Json"
  | .jsonl => "Jsonl"
  | .yaml => "Yaml"
  | .tag => "Tag"

/-- The settings as logs show them. -/
def shown (settings : Settings) : String :=
  "SimCsvConfig \x7b reader: ReaderOptions \x7b comment_char: " ++
    Text.shownChar settings.reader.comment ++ ", delimiter: " ++
    Text.shownChar settings.reader.delimiter ++ ", skip_empty: " ++
    shownTruth settings.reader.skipEmpty ++ ", trim: " ++ shownTruth settings.reader.trim ++
    " \x7d, output: OutputConfig \x7b format: " ++ shownFormat settings.format ++ " \x7d \x7d"

end Settings

end Delimited
