import Delimited.Text.Invisible

/-!
# Characters and texts in messages

Messages show a character between apostrophes and a text between quotes. Inside, the backslash and
the surrounding mark are written with a backslash, tab, newline, carriage return and the null
character as `\t`, `\n`, `\r` and `\0`, and every other character that cannot be shown by itself as
its number in hexadecimal.
-/

namespace Delimited.Text

/-- The hexadecimal digits of a number, in lower case. -/
def hexDigits (number : Nat) : String :=
  String.ofList (Nat.toDigits 16 number)

/-- One character of a message, inside the given mark. -/
def escapeChar (mark char : Char) : String :=
  if char = '\x00' then "\\0"
  else if char = '\t' then "\\t"
  else if char = '\n' then "\\n"
  else if char = '\r' then "\\r"
  else if char = '\\' || char = mark then "\\" ++ char.toString
  else if isInvisible char then "\\u\x7b" ++ hexDigits char.toNat ++ "\x7d"
  else char.toString

/-- A character as messages show it. -/
def shownChar (char : Char) : String :=
  "'" ++ escapeChar '\'' char ++ "'"

/-- A text as messages show it. -/
def shownText (text : String) : String :=
  "\"" ++ String.join (text.toList.map (escapeChar '"')) ++ "\""

end Delimited.Text
