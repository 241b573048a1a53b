import Delimited.Record

/-!
# Records as tags

A record is an element with its line number and one element a field, each on a line of its own; a
record without fields is an empty element. The five characters that could be taken for markup are
replaced by entities, one character after the other and the ampersand first, so that the ampersands
of the other entities stay.
-/

namespace Delimited.Tag

/-- Replace every occurrence of a character. -/
def replaceChar (char : Char) (entity : List Char) (text : List Char) : List Char :=
  text.flatMap fun other ↦ if other = char then entity else [other]

/-- Replace the characters that could be taken for markup by their entities. -/
def escapeChars (text : List Char) : List Char :=
  replaceChar '\'' "&apos;".toList <|
    replaceChar '"' "&quot;".toList <|
      replaceChar '>' "&gt;".toList <|
        replaceChar '<' "&lt;".toList <| replaceChar '&' "&amp;".toList text

/-- A text with its markup characters replaced. -/
def escape (text : String) : String :=
  String.ofList (escapeChars text.toList)

/-- The element of a field. -/
def field (text : String) : String :=
  "    <field>" ++ escape text ++ "</field>\n"

/-- The element of a record. -/
def record (record : Record) : String :=
  let head := "  <record line=\"" ++ toString record.line ++ "\""
  if record.isEmpty then head ++ "/>\n"
  else head ++ ">\n" ++ String.join (record.fields.map field) ++ "  </record>\n"

/-- The tag before all records. -/
def opening : String := "<records>\n"

/-- The tag behind all records. -/
def closing : String := "</records>\n"

end Delimited.Tag
