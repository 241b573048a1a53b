import Delimited.Assoc
import Delimited.Json.Printer
import Delimited.Mismatch
import Delimited.Options
import Delimited.Output.Format

/-!
# Options and formats given as JSON

Options are given as an object, as an array in the order comment character, delimiter, empty lines,
trimming, or not at all. What is not given has its default; keys of an object that mean nothing are
passed over, but an array must not be too long.
-/

namespace Delimited.Json

/-- JSON speaks of `null`, and of numbers as it writes them. -/
def wording : Wording :=
  { missing := "null", floats := floatLayout }

/-- A truth value. -/
def truth (value : Value) : Except Mismatch Bool :=
  match value with
  | .bool value => .ok value
  | _ => .error (.type value "a boolean")

/-- Read a value that may be missing. -/
def orDefault {α : Type} (read : Value → Except Mismatch α) (fallback : α) :
    Option Value → Except Mismatch α
  | some value => read value
  | none => .ok fallback

/-- Options from the four values that may be given for them. -/
def optionsOf (comment delimiter skipEmpty trim : Option Value) : Except Mismatch Options := do
  let defaults : Options := {}
  let comment ← orDefault Value.char defaults.comment comment
  let delimiter ← orDefault Value.char defaults.delimiter delimiter
  let skipEmpty ← orDefault truth defaults.skipEmpty skipEmpty
  let trim ← orDefault truth defaults.trim trim
  return { comment, delimiter, skipEmpty, trim }

/-- Options given as a value. -/
def options (value : Value) : Except Mismatch Options :=
  match value with
  | .null => .ok {}
  | .table entries =>
      optionsOf (Assoc.get? "comment_char" entries) (Assoc.get? "delimiter" entries)
        (Assoc.get? "skip_empty" entries) (Assoc.get? "trim" entries)
  | .array items => do
      let options ← optionsOf items[0]? items[1]? items[2]? items[3]?
      if 4 < items.length then
        throw (.length items.length "fewer elements in array")
      return options
  | _ => .error (.type value "struct ReaderOptions")

/-- The text for a format name that means nothing. -/
def unknownVariant (name : String) : String :=
  let shown := Format.all.map fun format ↦ "\x60" ++ format.name ++ "\x60"
  "unknown variant \x60" ++ name ++ "\x60, expected one of " ++ String.intercalate ", " shown

/-- The format of a name, or the text that reports why there is none. -/
def format (name : String) : Except String Format :=
  match Format.ofName? name with
  | some format => .ok format
  | none => .error (unknownVariant name)

end Delimited.Json
