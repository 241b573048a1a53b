import Delimited.Proofs.Invariants
import Delimited.Source.TextSource

/-!
# What the log tells of the lines

Reading notes the lines that it passes over, the logical line that it finds and the end of the text;
what requests to the source add to that are failures. `ReadNotes` is the log of one read, with a
rule for each turn that a read can take, and `Reader.notes_readFields` says that a read keeps to it.
All that the log tells is drawn from these rules. `Tiles` says that spans of lines follow each other
without a gap: those of a read do (`Reading.tiles`), and so do those of all reads of a session.
-/

namespace Delimited

/-- Lines that follow each other, from the first to the last. -/
structure Span where
  first : Nat
  last : Nat
  deriving DecidableEq, Repr

/-- The lines of a span. -/
def Span.lines (span : Span) : List Nat :=
  List.range' span.first (span.last + 1 - span.first)

/-- Spans that follow each other without a gap, from the line behind `before` up to `last`. -/
inductive Tiles : (before : Nat) → List Span → (last : Nat) → Prop where
  /-- There is no line. -/
  | nil (line : Nat) : Tiles line [] line
  /-- A span of a line or more, and those behind it. -/
  | cons {before middle last : Nat} {spans : List Span} (hle : before + 1 ≤ middle)
      (hmore : Tiles middle spans last) :
      Tiles before ({ first := before + 1, last := middle } :: spans) last

namespace Event

/-- The lines that an event tells of. -/
def span? : Event → Option Span
  | .skippedComment line => some { first := line, last := line }
  | .skippedEmpty line => some { first := line, last := line }
  | .readLine first last _ => some { first, last }
  | _ => none

/-- A logical line was read. -/
def isReadLine : Event → Bool
  | .readLine _ _ _ => true
  | _ => false

/-- The end of the text was met. -/
def isEndOfStream : Event → Bool
  | .endOfStream _ => true
  | _ => false

/-- The comment character was set to one that the options do not admit. -/
def isCommentConflict : Event → Bool
  | .commentConflict _ => true
  | _ => false

end Event

/-- What is noted, besides failures of the source, by a read that starts behind line `before`, ends
behind line `last` and finds these fields, if it finds a line. -/
inductive ReadNotes : (before : Nat) → Option (List Field) → (last : Nat) → List Event → Prop where
  /-- The end of the text is met. -/
  | endOfStream (line : Nat) : ReadNotes line none line [.endOfStream line]
  /-- An empty line is reported, which is not noted. -/
  | empty (line : Nat) : ReadNotes line (some []) (line + 1) []
  /-- A logical line is read. -/
  | logical {line last : Nat} {fields : List Field} (hfields : fields ≠ [])
      (hle : line + 1 ≤ last) :
      ReadNotes line (some fields) last [.readLine (line + 1) last fields.length]
  /-- A comment line is passed over. -/
  | comment {line last : Nat} {fields? : Option (List Field)} {noted : List Event}
      (hmore : ReadNotes (line + 1) fields? last noted) :
      ReadNotes line fields? last (.skippedComment (line + 1) :: noted)
  /-- An empty line is passed over. -/
  | skippedEmpty {line last : Nat} {fields? : Option (List Field)} {noted : List Event}
      (hmore : ReadNotes (line + 1) fields? last noted) :
      ReadNotes line fields? last (.skippedEmpty (line + 1) :: noted)

/-- What events note besides failures of the source, in order. -/
def notes (events : Array Event) : List Event :=
  events.toList.filter (·.failure?.isNone)

/-- The lines that a read accounts for: those that its events tell of and, if it gave a line that is
not noted, the one that the counter stands at. -/
def Reading.spans {σ : Type} (reading : Reading σ) : List Span :=
  reading.events.toList.filterMap Event.span? ++
    if reading.status = .line ∧ reading.events.toList.filter Event.isReadLine = [] then
      [{ first := reading.reader.line, last := reading.reader.line }]
    else []

section Status

variable {σ : Type} {reading : Reading σ}

/-- A read that finds fields or an empty line gives a line. -/
theorem Reading.status_eq_line_iff : reading.status = .line ↔ reading.fields?.isSome = true := by
  simp [status, Option.isSome_iff_ne_none]

/-- A read that finds no line meets the end. -/
theorem Reading.status_eq_endOfStream_iff :
    reading.status = .endOfStream ↔ reading.fields?.isNone = true := by
  simp [status]

end Status

namespace Tiles

variable {before middle last : Nat} {spans more : List Span}

/-- A span alone. -/
theorem singleton (hle : before + 1 ≤ last) :
    Tiles before [{ first := before + 1, last }] last :=
  .cons hle (.nil last)

/-- Spans that follow behind others. -/
theorem append (h : Tiles before spans middle) (hmore : Tiles middle more last) :
    Tiles before (spans ++ more) last := by
  induction h with
  | nil => exact hmore
  | cons hle _ ih => exact .cons hle (ih hmore)

/-- The last line is not in front of the first. -/
theorem le (h : Tiles before spans last) : before ≤ last := by
  induction h with
  | nil line => exact Nat.le_refl line
  | cons hle _ ih => omega

/-- Each line is in one span, and they come in order. -/
theorem flatMap_lines (h : Tiles before spans last) :
    spans.flatMap Span.lines = List.range' (before + 1) (last - before) := by
  induction h with
  | nil line => simp
  | @cons before middle last spans hle hmore ih =>
      have hlast := hmore.le
      have hsplit : last - before = (middle - before) + (last - middle) := by omega
      have hfirst : middle + 1 - (before + 1) = middle - before := by omega
      have hnext : before + 1 + (middle - before) = middle + 1 := by omega
      rw [List.flatMap_cons, ih, hsplit, ← List.range'_append_1, hnext, Span.lines, hfirst]

end Tiles

namespace ReadNotes

variable {before last : Nat} {fields? : Option (List Field)} {noted : List Event}

/-- The spans of a read follow each other. -/
theorem tiles (h : ReadNotes before fields? last noted) :
    Tiles before
      (noted.filterMap Event.span? ++
        if fields?.isSome ∧ noted.filter Event.isReadLine = [] then [{ first := last, last }]
        else [])
      last := by
  induction h with
  | endOfStream line => exact .nil line
  | empty line => exact .singleton (Nat.le_refl _)
  | logical hfields hle => exact .singleton hle
  | comment _ ih => exact .cons (Nat.le_refl _) ih
  | skippedEmpty _ ih => exact .cons (Nat.le_refl _) ih

/-- A logical line is noted exactly if the read finds fields, once, and with their number. -/
theorem filter_isReadLine (h : ReadNotes before fields? last noted) :
    (fields?.getD [] = [] ∧ noted.filter Event.isReadLine = []) ∨
      ∃ first, noted.filter Event.isReadLine = [.readLine first last (fields?.getD []).length] ∧
        fields?.getD [] ≠ [] := by
  induction h with
  | endOfStream line => exact .inl ⟨rfl, rfl⟩
  | empty line => exact .inl ⟨rfl, rfl⟩
  | @logical line last fields hfields hle => exact .inr ⟨line + 1, rfl, hfields⟩
  | comment _ ih => exact ih
  | skippedEmpty _ ih => exact ih

/-- The end of the text is noted exactly if the read finds no line, once, and with the counter. -/
theorem filter_isEndOfStream (h : ReadNotes before fields? last noted) :
    noted.filter Event.isEndOfStream = if fields?.isNone then [.endOfStream last] else [] := by
  induction h with
  | endOfStream line => rfl
  | empty line => rfl
  | logical hfields hle => rfl
  | comment _ ih => exact ih
  | skippedEmpty _ ih => exact ih

/-- The choice of the comment character is not noted. -/
theorem filter_isCommentConflict (h : ReadNotes before fields? last noted) :
    noted.filter Event.isCommentConflict = [] := by
  induction h with
  | endOfStream line => rfl
  | empty line => rfl
  | logical hfields hle => rfl
  | comment _ ih => exact ih
  | skippedEmpty _ ih => exact ih

end ReadNotes

/-- Failures of the source tell of no lines. -/
theorem filterMap_span?_notes (events : Array Event) :
    (notes events).filterMap Event.span? = events.toList.filterMap Event.span? := by
  rw [notes, List.filterMap_filter]
  congr 1
  funext event
  cases event <;> rfl

/-- Events of a kind that no failure is of are found among the notes. -/
theorem filter_notes {kind : Event → Bool} (h : ∀ error, kind (.streamFailed error) = false)
    (events : Array Event) : (notes events).filter kind = events.toList.filter kind := by
  rw [notes, List.filter_filter]
  refine List.filter_congr fun event _ ↦ ?_
  cases event with
  | streamFailed error => simp [h error]
  | _ => simp [Event.failure?]

section Notes

variable {σ : Type} [CharSource σ]

@[simp] theorem notes_empty : notes #[] = [] := rfl

@[simp] theorem notes_append (events more : Array Event) :
    notes (events ++ more) = notes events ++ notes more := by
  simp [notes]

/-- An event that notes no failure comes behind the others. -/
theorem notes_push {event : Event} (h : event.failure? = none) (events : Array Event) :
    notes (events.push event) = notes events ++ [event] := by
  simp [notes, h]

omit [CharSource σ] in
/-- A request for a character notes nothing but its failure. -/
@[simp] theorem notes_pull (pull : Pull σ) : notes pull.events = [] := by
  cases h : pull.failure <;> simp [Pull.events, notes, Event.failure?, h]

/-- Dropping the rest of a line notes nothing but failures. -/
@[simp] theorem notes_skipLine (source : σ) (events : Array Event) :
    notes (skipLine source events).events = notes events := by
  fun_induction skipLine source events with
  | case1 source events pull events' => simp [events']
  | case2 source events pull events' => simp [events']
  | case3 source events pull events' char hchar hne ih => simpa [events'] using ih

namespace LineScan

/-- Reacting to a character between quotes notes nothing but failures. -/
theorem notes_reactQuoted (scan : LineScan) (char : Char) (source : σ) :
    notes (scan.reactQuoted char source).events = [] := by
  unfold reactQuoted
  split
  · dsimp only
    split <;> simp
  · split <;> simp

/-- Reacting to text notes nothing but failures. -/
theorem notes_reactText (dialect : Dialect) (scan : LineScan) (char : Char) (source : σ) :
    notes (scan.reactText dialect char source).events = [] := by
  unfold reactText
  split
  · simp
  · split <;> rfl

/-- Reacting to a character outside quotes notes nothing but failures. -/
theorem notes_reactPlain (dialect : Dialect) (scan : LineScan) (char : Char) (source : σ) :
    notes (scan.reactPlain dialect char source).events = [] := by
  unfold reactPlain
  split
  · rfl
  · split
    · rfl
    · split
      · dsimp only
        split
        · simp
        · simp [notes_reactText]
      · exact scan.notes_reactText dialect char source

/-- Reacting to a character notes nothing but failures. -/
@[simp] theorem notes_react (dialect : Dialect) (scan : LineScan) (char : Char) (source : σ) :
    notes (scan.react dialect char source).events = [] := by
  unfold react
  split
  · exact scan.notes_reactQuoted char source
  · exact scan.notes_reactPlain dialect char source
  · exact scan.notes_reactPlain dialect char source

end LineScan

/-- Scanning a line notes nothing but failures. -/
@[simp] theorem notes_scanLine (dialect : Dialect) (scan : LineScan) (char : Char) (source : σ)
    (events : Array Event) :
    notes (scanLine dialect scan char source events).events = notes events := by
  fun_induction scanLine dialect scan char source events with
  | case1 scan char source events reaction events' => simp [events', reaction]
  | case2 scan char source events reaction events' hopen pull events'' =>
      simp [events'', events', reaction]
  | case3 scan char source events reaction events' hopen pull events'' following hchar ih =>
      simpa [events'', events', reaction] using ih

/-- Testing for an empty line notes nothing but failures. -/
@[simp] theorem notes_ofFirst (first : Char) (source : σ) :
    notes (LineEnd.ofFirst first source).events = [] := by
  unfold LineEnd.ofFirst
  split
  · rfl
  · split
    · dsimp only
      split <;> simp
    · rfl

/-- A scan gives at least one field. -/
theorem fields_scanLine_ne_nil (dialect : Dialect) (scan : LineScan) (char : Char) (source : σ)
    (events : Array Event) : (scanLine dialect scan char source events).fields ≠ [] := by
  have hview := congrArg ScannedText.fields (scanLine_view dialect scan char source events)
  have hfields := fields_scanText_ne_nil dialect scan (char :: CharSource.unread source)
  rwa [← hview] at hfields

/-- A read notes the lines that it passes over and how it ends. -/
theorem Reader.notes_readFields (reader : Reader σ) (skipEmpty : Bool) (events : Array Event) :
    let reading := reader.readFields skipEmpty events
    ∃ noted, notes reading.events = notes events ++ noted ∧
      ReadNotes reader.line reading.fields? reading.reader.line noted := by
  fun_induction readFields reader skipEmpty events with
  | case1 reader events pull events' hend =>
      refine ⟨_, ?_, .endOfStream reader.line⟩
      rw [notes_push rfl]
      simp [events']
  | case2 reader events pull events' line events'' hchar hnewline ih =>
      obtain ⟨noted, hnoted, hnotes⟩ := ih
      refine ⟨_, ?_, .comment hnotes⟩
      rw [hnoted, notes_push rfl]
      simp [events', line]
  | case3 reader events pull events' line events'' skipped hchar hnewline ih =>
      obtain ⟨noted, hnoted, hnotes⟩ := ih
      refine ⟨_, ?_, .comment hnotes⟩
      rw [hnoted, notes_append, notes_push rfl]
      simp [events', line, skipped]
  | case4 reader events pull events' first hchar line hcomment lineEnd events'' hempty hskip ih =>
      obtain ⟨noted, hnoted, hnotes⟩ := ih
      refine ⟨_, ?_, .skippedEmpty hnotes⟩
      rw [hnoted, notes_push rfl]
      simp [events'', events', line, lineEnd]
  | case5 reader events pull events' first hchar line hcomment lineEnd events'' hempty hkeep =>
      refine ⟨_, ?_, .empty reader.line⟩
      simp [events'', events', lineEnd]
  | case6 reader events pull events' first hchar line hcomment lineEnd events'' hempty scanned =>
      have hfields := fields_scanLine_ne_nil reader.options.dialect {} first lineEnd.source #[]
      refine ⟨_, ?_, .logical hfields (Nat.le_add_right line scanned.continuations)⟩
      rw [notes_push rfl]
      simp [events'', events', line, lineEnd, scanned]

end Notes

/-- A read that was made, and whether it strips white space. -/
structure Read (σ : Type) where
  reading : Reading σ
  trim : Bool

namespace Read

variable {σ : Type}

/-- The tokens of the line that was read. -/
def tokens (read : Read σ) : List String :=
  read.reading.tokens read.trim

/-- The counter behind the read. -/
def line (read : Read σ) : Nat :=
  read.reading.reader.line

/-- What the read noted, failures of the source among it. -/
def events (read : Read σ) : List Event :=
  read.reading.events.toList

/-- The line that was read, as a record. -/
def record? (read : Read σ) : Option Record :=
  read.reading.fields?.map fun _ ↦ { line := read.line, fields := read.tokens }

end Read

/-- The lines that an answer gives, as records. -/
def Answer.given : Answer → List Record
  | .line .line tokens last => [{ line := last, fields := tokens }]
  | .records taken _ => taken
  | _ => []

namespace Reader

variable {σ : Type} [CharSource σ]

/-- The reads that taking at most this many records makes. Where no record is left, the read that
finds this out is the last one. -/
def recordReads (reader : Reader σ) : Nat → List (Read σ)
  | 0 => []
  | count + 1 =>
      let reading := reader.readFields reader.options.skipEmpty
      { reading, trim := reader.options.trim } ::
        if reading.fields?.isSome then reading.reader.recordReads count else []

/-- The reads that a request makes. -/
def reads (reader : Reader σ) : ReaderRequest → List (Read σ)
  | .line skipEmpty trim => [{ reading := reader.readFields skipEmpty, trim }]
  | .records count => reader.recordReads count
  | .setComment _ => []

/-- The reads that a session makes. -/
def sessionReads (reader : Reader σ) : List ReaderRequest → List (Read σ)
  | [] => []
  | request :: requests =>
      reader.reads request ++ (reader.serve request).reader.sessionReads requests

/-- What the log tells of a read. A logical line is noted if the read found fields, once, with their
number and the counter; the end of the text is noted if it found no line, once, with the counter. -/
structure Logged (read : Read σ) : Prop where
  line : read.tokens = [] ∧ read.events.filter Event.isReadLine = [] ∨
    ∃ first, read.tokens ≠ [] ∧
      read.events.filter Event.isReadLine = [.readLine first read.line read.tokens.length]
  endOfStream : read.events.filter Event.isEndOfStream =
    if read.reading.status = .endOfStream then [.endOfStream read.line] else []
  commentConflict : read.events.filter Event.isCommentConflict = []

/-- The spans of a read follow each other from the counter before it to the counter behind it. -/
theorem tiles_readFields (reader : Reader σ) (skipEmpty : Bool) :
    Tiles reader.line (reader.readFields skipEmpty).spans
      (reader.readFields skipEmpty).reader.line := by
  obtain ⟨noted, hnoted, hnotes⟩ := reader.notes_readFields skipEmpty #[]
  have htiles := hnotes.tiles
  rw [notes_empty, List.nil_append] at hnoted
  rw [← hnoted, filterMap_span?_notes, filter_notes fun _ ↦ rfl] at htiles
  simp only [Reading.spans, Reading.status_eq_line_iff]
  exact htiles

/-- Every read is logged. -/
theorem logged_readFields (reader : Reader σ) (skipEmpty trim : Bool) :
    Logged { reading := reader.readFields skipEmpty, trim } := by
  obtain ⟨noted, hnoted, hnotes⟩ := reader.notes_readFields skipEmpty #[]
  rw [notes_empty, List.nil_append] at hnoted
  have hline := hnotes.filter_isReadLine
  have hend := hnotes.filter_isEndOfStream
  have hconflict := hnotes.filter_isCommentConflict
  rw [← hnoted, filter_notes fun _ ↦ rfl] at hline hend hconflict
  refine ⟨?_, ?_, hconflict⟩
  · simp only [Read.tokens, Reading.tokens, Read.events, Read.line, List.map_eq_nil_iff,
      List.length_map, Ne]
    rcases hline with hnone | ⟨first, hsome, hfields⟩
    · exact .inl hnone
    · exact .inr ⟨first, hfields, hsome⟩
  · simp only [Reading.status_eq_endOfStream_iff]
    exact hend

/-- The read of the next record. -/
def recordRead (reader : Reader σ) : Read σ :=
  { reading := reader.nextRecord.2, trim := reader.options.trim }

/-- Where no record is left one read finds this out. -/
theorem recordReads_of_none {reader : Reader σ} (h : reader.nextRecord.1 = none) (count : Nat) :
    reader.recordReads (count + 1) = [reader.recordRead] := by
  have hfields : (reader.readFields reader.options.skipEmpty).fields? = none :=
    Option.map_eq_none_iff.mp h
  simp [recordReads, hfields, recordRead, nextRecord]

/-- Behind the read of a record come those of the others. -/
theorem recordReads_of_some {reader : Reader σ} {record : Record}
    (h : reader.nextRecord.1 = some record) (count : Nat) :
    reader.recordReads (count + 1) =
      reader.recordRead :: reader.nextRecord.2.reader.recordReads count := by
  obtain ⟨fields, hfields, _⟩ := Option.map_eq_some_iff.mp h
  simp [recordReads, hfields, recordRead, nextRecord]

/-- The records that are taken, the notes made meanwhile and the lines passed are those of the
reads. -/
theorem take_recordReads (records : RecordReader σ) (count : Nat) (taken : Array Record) :
    let rest := RecordSource.take records count taken
    let reads := records.reader.recordReads count
    rest.1.toList = taken.toList ++ reads.filterMap Read.record? ∧
      rest.2.events.toList = records.events.toList ++ reads.flatMap Read.events ∧
      Tiles records.reader.line (reads.flatMap (·.reading.spans)) rest.2.reader.line := by
  induction count generalizing records taken with
  | zero => simpa [RecordSource.take, recordReads] using Tiles.nil records.reader.line
  | succ count ih =>
      have hnext : RecordSource.next records = (records.reader.nextRecord.1,
        { reader := records.reader.nextRecord.2.reader
          events := records.events ++ records.reader.nextRecord.2.events }) := rfl
      have hrecord : records.reader.recordRead.record? = records.reader.nextRecord.1 := rfl
      have hevents : records.reader.recordRead.events =
        records.reader.nextRecord.2.events.toList := rfl
      have htiles : Tiles records.reader.line records.reader.recordRead.reading.spans
        records.reader.nextRecord.2.reader.line := records.reader.tiles_readFields _
      rw [RecordSource.take, hnext]
      cases hfound : records.reader.nextRecord.1 with
      | none =>
          rw [recordReads_of_none hfound]
          simp [hrecord, hfound, hevents, htiles]
      | some record =>
          rw [recordReads_of_some hfound]
          obtain ⟨htaken, hnoted, hmore⟩ := ih
            { reader := records.reader.nextRecord.2.reader
              events := records.events ++ records.reader.nextRecord.2.events } (taken.push record)
          refine ⟨?_, ?_, ?_⟩
          · simp [hrecord, hfound, htaken]
          · simp [hevents, hnoted]
          · exact htiles.append hmore

/-- Every read for a record is logged. -/
theorem logged_recordReads (reader : Reader σ) (count : Nat) :
    ∀ read ∈ reader.recordReads count, Logged read := by
  induction count generalizing reader with
  | zero => simp [recordReads]
  | succ count ih =>
      have hfirst : Logged reader.recordRead := reader.logged_readFields _ _
      intro read hread
      cases hfound : reader.nextRecord.1 with
      | none =>
          rw [recordReads_of_none hfound, List.mem_singleton] at hread
          rwa [hread]
      | some record =>
          rw [recordReads_of_some hfound] at hread
          rcases List.mem_cons.mp hread with rfl | hmore
          · exact hfirst
          · exact ih _ read hmore

/-- Every read that a request makes is logged. -/
theorem logged_reads (reader : Reader σ) (request : ReaderRequest) :
    ∀ read ∈ reader.reads request, Logged read := by
  cases request with
  | line skipEmpty trim => simpa [reads] using reader.logged_readFields skipEmpty trim
  | records count => exact reader.logged_recordReads count
  | setComment comment => simp [reads]

omit [CharSource σ] in
/-- Reads that are logged do not note the choice of the comment character. -/
theorem filter_not_isCommentConflict {reads : List (Read σ)} (h : ∀ read ∈ reads, Logged read) :
    (reads.flatMap Read.events).filter (!·.isCommentConflict) = reads.flatMap Read.events := by
  refine List.filter_eq_self.mpr fun event hevent ↦ ?_
  obtain ⟨read, hread, hmem⟩ := List.mem_flatMap.mp hevent
  simpa using List.filter_eq_nil_iff.mp (h read hread).commentConflict event hmem

/-- The lines that a request gives, what it notes besides the choice of the comment character and
the lines that it passes are those of its reads. -/
theorem serve_reads (reader : Reader σ) (request : ReaderRequest) :
    let reply := reader.serve request
    let reads := reader.reads request
    reply.answer.given = reads.filterMap Read.record? ∧
      reply.events.toList.filter (!·.isCommentConflict) = reads.flatMap Read.events ∧
      Tiles reader.line (reads.flatMap (·.reading.spans)) reply.reader.line := by
  have hnoted := filter_not_isCommentConflict (reader.logged_reads request)
  cases request with
  | line skipEmpty trim =>
      have htiles := reader.tiles_readFields skipEmpty
      simp only [reads, List.flatMap_singleton] at hnoted ⊢
      refine ⟨?_, hnoted, htiles⟩
      cases hfields : (reader.readFields skipEmpty).fields? <;>
        simp [serve, Reading.status, hfields, Answer.given, Read.record?, Read.tokens, Read.line]
  | records count =>
      obtain ⟨htaken, hevents, htiles⟩ := take_recordReads { reader } count #[]
      simp only [reads] at hnoted ⊢
      refine ⟨htaken, ?_, htiles⟩
      rw [← hnoted]
      exact congrArg _ hevents
  | setComment comment =>
      refine ⟨rfl, ?_, .nil reader.line⟩
      simp only [serve, setComment, reads, List.flatMap_nil]
      cases ({ reader.options with comment } : Options).fault? <;> rfl

/-- The lines that a session gives, what it notes besides the choice of the comment character and
the lines that it passes are those of its reads, which are logged. -/
theorem replies_sessionReads (reader : Reader σ) (requests : List ReaderRequest) :
    let given := replies serve reader requests
    let reads := reader.sessionReads requests
    given.flatMap (·.answer.given) = reads.filterMap Read.record? ∧
      (given.flatMap (·.events.toList)).filter (!·.isCommentConflict) = reads.flatMap Read.events ∧
      Tiles reader.line (reads.flatMap (·.reading.spans)) (reader.after requests).line ∧
      ∀ read ∈ reads, Logged read := by
  induction requests generalizing reader with
  | nil => simpa [replies, sessionReads] using Tiles.nil reader.line
  | cons request requests ih =>
      obtain ⟨hgiven, hnoted, htiles⟩ := reader.serve_reads request
      obtain ⟨hothersGiven, hothersNoted, hothersTile, hothersLogged⟩ :=
        ih (reader.serve request).reader
      simp only [replies, sessionReads, List.flatMap_cons, List.filterMap_append,
        List.filter_append, List.flatMap_append]
      refine ⟨?_, ?_, htiles.append hothersTile, ?_⟩
      · rw [hgiven, hothersGiven]
      · rw [hnoted, hothersNoted]
      · exact List.forall_mem_append.mpr ⟨reader.logged_reads request, hothersLogged⟩

end Reader

/-- The log of a session accounts for every physical line once. Let a reader that has counted no
line be asked for reads and changes of the comment character, in any order. The lines that it gives
and what it notes, besides choices of the comment character that the options do not admit, are those
of its reads. The spans of these reads follow each other without a gap up to the line counter, so
each line counted is in one of them. A read with tokens notes one logical line, up to the counter
and with the number of the tokens, and a read without tokens notes none; a read that meets the end
notes this once, with the counter. -/
theorem log_tiles_lines {σ : Type} [CharSource σ] (source : σ) (options : Options)
    (requests : List ReaderRequest) :
    let start : Reader σ := { source, options }
    let given := replies Reader.serve start requests
    let reads := start.sessionReads requests
    let counter := (start.after requests).line
    (given.flatMap (·.answer.given) = reads.filterMap Read.record? ∧
      (given.flatMap (·.events.toList)).filter (!·.isCommentConflict) = reads.flatMap Read.events) ∧
    (Tiles 0 (reads.flatMap (·.reading.spans)) counter ∧
      (reads.flatMap (·.reading.spans)).flatMap Span.lines = List.range' 1 counter) ∧
    ∀ read ∈ reads,
      (read.tokens = [] ∧ read.events.filter Event.isReadLine = [] ∨
        ∃ first, read.tokens ≠ [] ∧
          read.events.filter Event.isReadLine = [.readLine first read.line read.tokens.length]) ∧
      read.events.filter Event.isEndOfStream =
        if read.reading.status = .endOfStream then [.endOfStream read.line] else [] := by
  intro start given reads counter
  obtain ⟨hgiven, hnoted, htiles, hlogged⟩ := start.replies_sessionReads requests
  refine ⟨⟨hgiven, hnoted⟩, ⟨htiles, ?_⟩, fun read hread ↦ ?_⟩
  · simpa [start] using htiles.flatMap_lines
  · exact ⟨(hlogged read hread).line, (hlogged read hread).endOfStream⟩

/-- Two lines between quotes, a comment line, an empty line that is reported, two that are passed
over, one of them as a comment, and a quote that is never closed. -/
theorem log_tiles_lines_of_open_quote :
    let start : Reader TextSource := { source := .ofText "\"a\nb\",c\n#d\n\n\r\n\n\"e\n" }
    let requests : List ReaderRequest :=
      [.line true true, .line false false, .setComment '\n', .records 2]
    let reads := start.sessionReads requests
    let spans : List Span := [⟨1, 2⟩, ⟨3, 3⟩, ⟨4, 4⟩, ⟨5, 5⟩, ⟨6, 6⟩, ⟨7, 7⟩]
    let first : Read TextSource := { reading := start.readFields true, trim := true }
    (reads.flatMap (·.reading.spans) = spans ∧ Tiles 0 spans 7) ∧
      first ∈ reads ∧ first.tokens = ["a\nb", "c"] ∧
      ∃ line, first.events.filter Event.isReadLine = [.readLine line 2 2] := by
  intro start requests reads spans first
  obtain ⟨_, ⟨htiles, _⟩, hreads⟩ := log_tiles_lines start.source start.options requests
  have hspans : reads.flatMap (·.reading.spans) = spans := by decide +kernel
  have hcounter : (start.after requests).line = 7 := by decide +kernel
  have hfirst : first ∈ reads := List.mem_cons_self
  have htokens : first.tokens = ["a\nb", "c"] := by decide +kernel
  have hline : first.line = 2 := by decide +kernel
  refine ⟨⟨hspans, ?_⟩, hfirst, htokens, ?_⟩
  · rw [← hspans, ← hcounter]
    exact htiles
  · obtain ⟨hlogged, _⟩ := hreads first hfirst
    rw [htokens, hline] at hlogged
    simpa using hlogged

end Delimited
