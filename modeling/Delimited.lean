import Delimited.Assoc
import Delimited.Cli.Arguments
import Delimited.Cli.Run
import Delimited.Config.Builder
import Delimited.Config.Error
import Delimited.Config.Library
import Delimited.Config.Loader
import Delimited.Config.Path
import Delimited.Config.Settings
import Delimited.Config.Tree
import Delimited.Error
import Delimited.Event
import Delimited.Files
import Delimited.Json.Options
import Delimited.Json.Parser
import Delimited.Json.Printer
import Delimited.LogicalLine
import Delimited.Main
import Delimited.Mismatch
import Delimited.Number.Binary64
import Delimited.Number.Shortest
import Delimited.Options
import Delimited.Output.Format
import Delimited.Output.Json
import Delimited.Output.Sink
import Delimited.Output.Tag
import Delimited.Output.Write
import Delimited.Output.Yaml
import Delimited.Proofs.Agreement
import Delimited.Proofs.CarriageReturns
import Delimited.Proofs.Config.Documented
import Delimited.Proofs.Config.Keys
import Delimited.Proofs.Config.Layers
import Delimited.Proofs.Config.Merging
import Delimited.Proofs.ConflictingComment
import Delimited.Proofs.EventLog
import Delimited.Proofs.Fetching
import Delimited.Proofs.Grammar.Answers
import Delimited.Proofs.Grammar.Derivation
import Delimited.Proofs.Grammar.FinalNewline
import Delimited.Proofs.Grammar.Reading
import Delimited.Proofs.Invariants
import Delimited.Proofs.LentStream
import Delimited.Proofs.LineBuffer
import Delimited.Proofs.LineCounter
import Delimited.Proofs.LineEnding
import Delimited.Proofs.LookedUp
import Delimited.Proofs.Metering
import Delimited.Proofs.Output.AllRecords
import Delimited.Proofs.Output.Consumption
import Delimited.Proofs.Output.Delivery
import Delimited.Proofs.Output.Entities
import Delimited.Proofs.Output.JsonLayout
import Delimited.Proofs.Output.JsonRecords
import Delimited.Proofs.Output.JsonText
import Delimited.Proofs.Output.Printing
import Delimited.Proofs.Output.Tags
import Delimited.Proofs.Progress
import Delimited.Proofs.QuotedRecords
import Delimited.Proofs.RecordBoundary
import Delimited.Proofs.RenamedText
import Delimited.Proofs.Renaming
import Delimited.Proofs.Segments
import Delimited.Proofs.StreamFailure
import Delimited.Proofs.TakenRecords
import Delimited.Proofs.TextReading
import Delimited.Proofs.Walk
import Delimited.Proofs.Writing
import Delimited.Reader
import Delimited.Record
import Delimited.RecordSource
import Delimited.Session
import Delimited.Source.Basic
import Delimited.Source.ByteStream
import Delimited.Source.LineSource
import Delimited.Source.TextSource
import Delimited.Text.CodeRanges
import Delimited.Text.Escaped
import Delimited.Text.Invisible
import Delimited.Text.LowerCase
import Delimited.Text.Whitespace
import Delimited.Toml.Document
import Delimited.Toml.Lexical
import Delimited.Toml.Moment
import Delimited.Toml.Number
import Delimited.Toml.Tree
import Delimited.Value
import Delimited.Yaml.Scalar
