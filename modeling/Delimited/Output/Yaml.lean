import Delimited.Record
import Delimited.Yaml.Scalar

/-!
# Records as YAML

The records are a sequence of mappings from `line` to the line number and from `fields` to the
sequence of the fields.
-/

namespace Delimited.Yaml

/-- The item of a record. -/
def record (record : Record) : String :=
  "- line: " ++ toString record.line ++ "\n" ++
    if record.fields.isEmpty then "  fields: []\n"
    else "  fields:\n" ++ String.join (record.fields.map fun field ↦ "  - " ++ item field)

/-- The document of all records. -/
def records (records : List Record) : String :=
  if records.isEmpty then "[]\n" else String.join (records.map record)

end Delimited.Yaml
