import Delimited.Number.Shortest
import Delimited.Text.Escaped
import Delimited.Value

/-!
# Values of the wrong kind

What is reported when a value is not what its place asks for. The kinds of documents differ in the
word for a missing value and in the layout of floating point numbers, so a message is given in a
wording.
-/

namespace Delimited

/-- How the messages of a kind of document speak of values. -/
structure Wording where
  /-- The words for a missing value. -/
  missing : String
  /-- The layout of floating point numbers. -/
  floats : FloatLayout

/-- Why a value does not fit its place. -/
inductive Mismatch where
  /-- It has the wrong type. -/
  | type (found : Value) (expected : String)
  /-- It has the right type and is not one of the values admitted. -/
  | value (found : Value) (expected : String)
  /-- It has the wrong number of items. -/
  | length (found : Nat) (expected : String)

/-- A value as messages speak of it. -/
def Value.described (wording : Wording) : Value → String
  | .null => wording.missing
  | .bool value => "boolean \x60" ++ (if value then "true" else "false") ++ "\x60"
  | .integer value => "integer \x60" ++ toString value ++ "\x60"
  | .float value => "floating point \x60" ++ value.render wording.floats ++ "\x60"
  | .string value => "string " ++ Text.shownText value
  | .array _ => "sequence"
  | .table _ => "map"

/-- The text that reports a mismatch. -/
def Mismatch.message (wording : Wording) : Mismatch → String
  | .type found expected =>
      "invalid type: " ++ found.described wording ++ ", expected " ++ expected
  | .value found expected =>
      "invalid value: " ++ found.described wording ++ ", expected " ++ expected
  | .length found expected =>
      "invalid length " ++ toString found ++ ", expected " ++ expected

/-- The one character of a text. -/
def Value.char (value : Value) : Except Mismatch Char :=
  match value with
  | .string text =>
      match text.toList with
      | [char] => .ok char
      | _ => .error (.value value "a character")
  | _ => .error (.type value "a character")

end Delimited
