import Delimited.Options

/-!
# Output formats

The forms in which records can be written, and their names.
-/

namespace Delimited

/-- A form in which records are written. -/
inductive Format where
  /-- One JSON array over several lines. -/
  | json
  /-- One JSON object a line. -/
  | jsonl
  /-- One YAML sequence. -/
  | yaml
  /-- Nested tags. -/
  | tag
  deriving DecidableEq, Repr

namespace Format

/-- All formats, in order. -/
def all : List Format := [.json, .jsonl, .yaml, .tag]

/-- The name of a format. -/
def name : Format → String
  | .json => "json"
  | .jsonl => "jsonl"
  | .yaml => "yaml"
  | .tag => "tag"

/-- The place of a format among all of them. -/
def index (format : Format) : Nat :=
  all.idxOf format

/-- The format of a name, spelled exactly. -/
def ofName? (name : String) : Option Format :=
  all.find? fun format ↦ format.name == name

/-- The format of a name, or the reason why there is none. -/
def ofName (name : String) : Except OptionFault Format :=
  match ofName? name with
  | some format => .ok format
  | none => .error (.unknownFormat name)

/-- The name of a format stands for that format. -/
@[simp] theorem ofName?_name (format : Format) : ofName? format.name = some format := by
  cases format <;> decide

end Format

end Delimited
