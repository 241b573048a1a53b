import Delimited.Number.Shortest
import Delimited.Value

/-!
# Writing JSON

A value as a JSON text, either without any white space or with one entry or item a line, indented by
two spaces for each level. In a text the quote, the backslash and the controls are escaped, and all
else stands for itself.
-/

namespace Delimited.Json

/-- A hexadecimal digit, in lower case. -/
def hexDigit (digit : Nat) : Char :=
  Nat.digitChar digit

/-- A character inside a JSON string. -/
def escapeChar (char : Char) : List Char :=
  if char = '"' then ['\\', '"']
  else if char = '\\' then ['\\', '\\']
  else if char = '\x08' then ['\\', 'b']
  else if char = '\x0c' then ['\\', 'f']
  else if char = '\n' then ['\\', 'n']
  else if char = '\r' then ['\\', 'r']
  else if char = '\t' then ['\\', 't']
  else if char.toNat < 0x20 then
    ['\\', 'u', '0', '0', hexDigit (char.toNat / 16), hexDigit (char.toNat % 16)]
  else [char]

/-- A text as a JSON string. -/
def string (text : String) : String :=
  "\"" ++ String.ofList (text.toList.flatMap escapeChar) ++ "\""

/-- Numbers are written without exponent while the leading digit stands from place minus five to
place fifteen; an exponent always has a sign. -/
def floatLayout : FloatLayout :=
  { leastPlace := some (-5), greatestPlace := some 15, plusSign := "+", tie := .even }

/-- A value that holds no others. -/
def scalar : Value → String
  | .bool value => if value then "true" else "false"
  | .integer value => toString value
  | .float value => if value.isFinite then value.render floatLayout else "null"
  | .string value => string value
  | _ => "null"

mutual

/-- A value without white space. -/
def compact : Value → String
  | .array items => "[" ++ String.intercalate "," (compactItems items) ++ "]"
  | .table entries => "\x7b" ++ String.intercalate "," (compactEntries entries) ++ "\x7d"
  | value => scalar value

/-- Values without white space. -/
def compactItems : List Value → List String
  | [] => []
  | item :: items => compact item :: compactItems items

/-- Entries without white space. -/
def compactEntries : List (String × Value) → List String
  | [] => []
  | (key, value) :: entries => (string key ++ ":" ++ compact value) :: compactEntries entries

end

/-- The start of a line at a level. -/
def indentation (level : Nat) : String :=
  String.ofList (List.replicate (2 * level) ' ')

/-- The lines of a collection between its brackets. -/
def block (opening closing : String) (level : Nat) (lines : List String) : String :=
  if lines.isEmpty then opening ++ closing
  else
    opening ++ "\n" ++ String.intercalate ",\n" (lines.map (indentation (level + 1) ++ ·)) ++ "\n" ++
      indentation level ++ closing

mutual

/-- A value over several lines, at a level. -/
def pretty (level : Nat) : Value → String
  | .array items => block "[" "]" level (prettyItems (level + 1) items)
  | .table entries => block "\x7b" "\x7d" level (prettyEntries (level + 1) entries)
  | value => scalar value

/-- Values over several lines. -/
def prettyItems (level : Nat) : List Value → List String
  | [] => []
  | item :: items => pretty level item :: prettyItems level items

/-- Entries over several lines. -/
def prettyEntries (level : Nat) : List (String × Value) → List String
  | [] => []
  | (key, value) :: entries =>
      (string key ++ ": " ++ pretty level value) :: prettyEntries level entries

end

end Delimited.Json
