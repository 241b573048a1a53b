import Delimited.RecordSource

/-!
# Sessions

A session is a run of requests, each answered before the next one is made. Some requests go to a
reader: read a line, take records, change the comment character. Others go past it to the source
below, or bind a new reader to that source, whose line counter starts again.

`replies` is the run: each reply holds its answer, the reader afterwards and what was noted. The tokens
of a line are in its answer, so there is no list for a caller to lend that would be emptied and filled.
-/

namespace Delimited

/-- What can be asked of a reader. -/
inductive ReaderRequest where
  /-- Read the next line, passing over empty lines and stripping white space off unquoted fields if
  that is asked for. -/
  | line (skipEmpty trim : Bool)
  /-- Take at most a number of records. -/
  | records (count : Nat)
  /-- Change the comment character. -/
  | setComment (comment : Char)
  deriving DecidableEq, Repr

/-- What can be asked of a reader and of the source below it. -/
inductive Request where
  /-- Ask the reader. -/
  | reader (request : ReaderRequest)
  /-- Take a character of the source. -/
  | next
  /-- Look at the next character of the source. -/
  | peek
  /-- Ask whether the source is at its end. -/
  | isAtEnd
  /-- Bind a new reader to the source. -/
  | rebind (options : Options)
  deriving DecidableEq, Repr

/-- How a read went. -/
inductive Status where
  /-- A line was read. -/
  | line
  /-- No line was left. -/
  | endOfStream
  deriving DecidableEq, Repr

/-- The answer to a request. -/
inductive Answer where
  /-- How a read went, the tokens of the line, and the line counter. -/
  | line (status : Status) (tokens : List String) (line : Nat)
  /-- The records taken, and the line counter. -/
  | records (records : List Record) (line : Nat)
  /-- The comment character from now on. -/
  | comment (comment : Char)
  /-- A character of the source, unless it is at its end. -/
  | char (char : Option Char)
  /-- Whether the source is at its end. -/
  | atEnd (flag : Bool)
  /-- The line counter of a new reader. -/
  | bound (line : Nat)
  /-- Why no new reader was bound; the old one stays. -/
  | refused (fault : OptionFault)
  deriving DecidableEq, Repr

/-- The answer to a request and what comes with it. -/
structure Reply (σ : Type) where
  answer : Answer
  /-- The reader afterwards. -/
  reader : Reader σ
  /-- What was noted on the way. -/
  events : Array Event

/-- How a read went: it gave a line unless no line was left. -/
def Reading.status {σ : Type} (reading : Reading σ) : Status :=
  if reading.fields?.isSome then .line else .endOfStream

/-- Answer requests one after the other. -/
def replies {σ ρ : Type} (respond : Reader σ → ρ → Reply σ) (reader : Reader σ) :
    List ρ → List (Reply σ)
  | [] => []
  | request :: requests =>
      let reply := respond reader request
      reply :: replies respond reply.reader requests

namespace Reader

variable {σ : Type} [CharSource σ]

/-- Answer a request to a reader. -/
def serve (reader : Reader σ) : ReaderRequest → Reply σ
  | .line skipEmpty trim =>
      let reading := reader.readFields skipEmpty
      { answer := .line reading.status (reading.tokens trim) reading.reader.line
        reader := reading.reader
        events := reading.events }
  | .records count =>
      let start : RecordReader σ := { reader }
      let taken := RecordSource.take start count #[]
      { answer := .records taken.1.toList taken.2.reader.line
        reader := taken.2.reader
        events := taken.2.events }
  | .setComment comment =>
      let change := reader.setComment comment
      { answer := .comment change.1.options.comment
        reader := change.1
        events := change.2.toArray }

/-- Answer a request to a reader or to the source below it. -/
def respond (reader : Reader σ) : Request → Reply σ
  | .reader request => reader.serve request
  | .next =>
      let pull := CharSource.next reader.source
      { answer := .char pull.char
        reader := { reader with source := pull.source }
        events := pull.events }
  | .peek =>
      let pull := CharSource.peek reader.source
      { answer := .char pull.char
        reader := { reader with source := pull.source }
        events := pull.events }
  | .isAtEnd =>
      let pull := CharSource.peek reader.source
      { answer := .atEnd pull.char.isNone
        reader := { reader with source := pull.source }
        events := pull.events }
  | .rebind options =>
      match ofOptions reader.source options with
      | .error fault => { answer := .refused fault, reader, events := #[] }
      | .ok bound => { answer := .bound bound.line, reader := bound, events := #[] }

end Reader

end Delimited
