import Delimited.Json.Printer
import Delimited.Record

/-!
# Records as JSON

A record is an object with its line number and the array of its fields.
-/

namespace Delimited

/-- A record as a value. -/
def Record.toValue (record : Record) : Value :=
  .table [("line", .integer record.line), ("fields", .array (record.fields.map .string))]

namespace Json

/-- A record on one line. -/
def record (record : Record) : String :=
  compact record.toValue

/-- All records as one array over several lines. -/
def records (records : List Record) : String :=
  pretty 0 (.array (records.map Record.toValue))

end Json

end Delimited
