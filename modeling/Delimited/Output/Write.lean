import Delimited.Output.Format
import Delimited.Output.Json
import Delimited.Output.Sink
import Delimited.Output.Tag
import Delimited.Output.Yaml
import Delimited.RecordSource

/-!
# Writing records

The JSON array and the YAML document are written after all records have been taken; the other two
formats write each record before they take the next one. Once everything is handed over the sink is
flushed. Writing stops at the first piece that is refused.
-/

namespace Delimited

namespace Format

/-- Each record is written before the next one is taken. -/
def isStreamed : Format → Bool
  | .json => false
  | .jsonl => true
  | .yaml => false
  | .tag => true

/-- The pieces before all records. -/
def opening : Format → List Piece
  | .tag => [⟨.layout, Tag.opening⟩]
  | _ => []

/-- The pieces of one record, in the formats that write each record by itself. -/
def each : Format → Record → List Piece
  | .jsonl, record => [⟨.document, Json.record record⟩, ⟨.layout, "\n"⟩]
  | .tag, record => [⟨.layout, Tag.record record⟩]
  | _, _ => []

/-- The pieces behind all records. -/
def closing : Format → List Piece
  | .tag => [⟨.layout, Tag.closing⟩]
  | _ => []

/-- All pieces of the output of records. -/
def pieces (format : Format) (records : List Record) : List Piece :=
  match format with
  | .json => [⟨.document, Json.records records⟩, ⟨.layout, "\n"⟩]
  | .yaml => [⟨.document, Yaml.records records⟩]
  | format => format.opening ++ records.flatMap format.each ++ format.closing

/-- The text that a writer without failures gets. -/
def output (format : Format) (records : List Record) : String :=
  String.join ((format.pieces records).map Piece.text)

end Format

/-- The outcome of writing records. -/
structure Writing (ρ : Type) where
  /-- The failure that stopped it. -/
  error : Option Error
  /-- The sink afterwards. -/
  sink : Sink
  /-- The records not taken. -/
  records : ρ

variable {ρ : Type} [RecordSource ρ]

/-- Write each record before the next one is taken. -/
def writeEach (format : Format) (records : ρ) (sink : Sink) : Writing ρ :=
  let following := RecordSource.next records
  match _h : following.1 with
  | none => { error := none, sink, records := following.2 }
  | some record =>
      match sink.putAll (format.each record) with
      | (sink, some error) => { error := some error, sink, records := following.2 }
      | (sink, none) => writeEach format following.2 sink
termination_by RecordSource.bound records
decreasing_by exact RecordSource.bound_next_lt records (by simp [_h, following])

/-- Hand the last pieces over and flush. -/
def Writing.finish (writing : Writing ρ) (pieces : List Piece) : Writing ρ :=
  match writing.error with
  | some _ => writing
  | none =>
      match writing.sink.putAll pieces with
      | (sink, some error) => { writing with error := some error, sink }
      | (sink, none) =>
          let (sink, error) := sink.flush
          { writing with error, sink }

/-- Write records in a format. -/
def writeRecords (format : Format) (records : ρ) (sink : Sink) : Writing ρ :=
  if format.isStreamed then
    match sink.putAll format.opening with
    | (sink, some error) => { error := some error, sink, records }
    | (sink, none) => (writeEach format records sink).finish format.closing
  else
    let (taken, records) := RecordSource.takeAll records
    Writing.finish { error := none, sink, records } (format.pieces taken.toList)

end Delimited
