import Delimited.Proofs.Fetching

/-!
# Failures of a stream

A session over the lines of a stream may also ask for the failure that finished the source, at any
time. `failure_reported_once` says what it sees of a failure: the characters of the segments before
it and none of its own segment; from the moment on at which the end was met nothing but the end,
whatever the stream would still give; and the failure itself exactly once.
-/

namespace Delimited

open CharSource (unread)

/-- What can be asked of a reader over the lines of a stream. -/
inductive StreamRequest where
  /-- Ask the reader or the source below it. -/
  | session (request : Request)
  /-- Take the failure that finished the source. -/
  | takeError
  deriving DecidableEq, Repr

/-- The request of a session, if it is one. -/
def StreamRequest.session? : StreamRequest → Option Request
  | .session request => some request
  | .takeError => none

/-- What is given for a request. -/
inductive Report where
  | answer (answer : Answer)
  /-- The failure taken, if one was kept. -/
  | failure (error? : Option StreamError)
  deriving DecidableEq, Repr

/-- The answer to a request of a session. -/
def Report.answer? : Report → Option Answer
  | .answer given => some given
  | .failure _ => none

/-- The failure that was taken. -/
def Report.taken? : Report → Option StreamError
  | .answer _ => none
  | .failure error? => error?

/-- What is given for a request, the reader afterwards and what was noted on the way. -/
structure StreamReply where
  report : Report
  reader : Reader LineSource
  events : Array Event

/-- An answer that shows nothing but the end, if it shows anything of the source. -/
def Answer.AtEnd : Answer → Prop
  | .line status tokens _ => status = .endOfStream ∧ tokens = []
  | .records taken _ => taken = []
  | .char following => following = none
  | .atEnd flag => flag = true
  | .comment _ | .bound _ | .refused _ => True

/-- Over any stream, requests for characters give none and leave source and stream as they are. -/
def LineSource.Over (source : LineSource) : Prop :=
  ∀ stream : ByteStream,
    let below := { source with stream }
    CharSource.next below = { char := none, source := below } ∧
      CharSource.peek below = { char := none, source := below }

namespace Reader

/-- Give what is asked for. -/
def attend (reader : Reader LineSource) : StreamRequest → StreamReply
  | .session request =>
      let reply := reader.respond request
      { report := .answer reply.answer, reader := reply.reader, events := reply.events }
  | .takeError =>
      let taken := reader.source.takeError
      { report := .failure taken.1, reader := { reader with source := taken.2 }, events := #[] }

/-- Give what is asked for, one request after the other. -/
def attended (reader : Reader LineSource) : List StreamRequest → List StreamReply
  | [] => []
  | request :: requests =>
      let reply := reader.attend request
      reply :: reply.reader.attended requests

/-- The reader behind some requests. -/
def afterAttending (reader : Reader LineSource) (requests : List StreamRequest) :
    Reader LineSource :=
  requests.foldl (fun reader request ↦ (reader.attend request).reader) reader

end Reader

/-- The failures that were taken. -/
def takenFailures (given : List StreamReply) : List StreamError :=
  given.filterMap (·.report.taken?)

/-- The failures that were noted. -/
def notedFailures (given : List StreamReply) : List StreamError :=
  given.flatMap fun reply ↦ failures reply.events

@[simp] theorem takenFailures_cons (reply : StreamReply) (given : List StreamReply) :
    takenFailures (reply :: given) = reply.report.taken?.toList ++ takenFailures given := by
  cases h : reply.report.taken? <;> simp [takenFailures, h]

@[simp] theorem notedFailures_cons (reply : StreamReply) (given : List StreamReply) :
    notedFailures (reply :: given) = failures reply.events ++ notedFailures given := rfl

namespace LineSource

/-- A finished source with nothing in hand is over. -/
theorem over_of_finished {source : LineSource} (hfinished : source.finished = true)
    (hheld : source.held = []) : source.Over := by
  intro stream below
  have hcursor : below.cursor.get? below.line = none := by
    rw [get?_cursor]
    show source.held.head? = none
    rw [hheld]
    rfl
  have hfill : below.fill = (below, none) := by
    simp [fill, hcursor, below, hfinished]
  constructor
  · show below.next = _
    simp [next, hfill, hcursor]
  · show below.peek = _
    simp [peek, hfill, hcursor]

/-- A request for a character that gives none leaves the source over. -/
theorem over_of_none {source : LineSource} {pull : Pull LineSource}
    (hpull : pull = CharSource.next source ∨ pull = CharSource.peek source)
    (hnone : pull.char = none) : pull.source.Over := by
  obtain ⟨hfinished, hheld⟩ := finished_of_none hpull hnone
  exact over_of_finished hfinished hheld

namespace Over

variable {source : LineSource}

/-- What is over gives the same source back. -/
theorem invariant (h : source.Over) : SourceInvariant (· = source) where
  next other hsame := by
    rw [hsame]
    exact congrArg Pull.source (h source.stream).1
  peek other hsame := by
    rw [hsame]
    exact congrArg Pull.source (h source.stream).2

/-- Where the source is over nothing is unread. -/
theorem unread_eq_nil (h : source.Over) : source.unread = [] :=
  CharSource.unread_eq_nil (congrArg Pull.char (h source.stream).1)

/-- A source that is over is finished. -/
theorem finished (h : source.Over) : source.finished = true := by
  have hnone : (CharSource.next source).char = none := congrArg Pull.char (h source.stream).1
  have hsame : (CharSource.next source).source = source := h.invariant.next source rfl
  have hfinished := (finished_of_none (.inl rfl) hnone).1
  rwa [hsame] at hfinished

/-- Neither the stream below nor a failure that is kept makes a difference. -/
theorem with_error (h : source.Over) (stream : ByteStream) (error : Option StreamError) :
    { source with stream, error }.Over := by
  have hheld := h.unread_eq_nil
  rw [unread, h.finished, if_pos rfl, List.append_nil] at hheld
  exact over_of_finished h.finished hheld

end Over

end LineSource

/-- Where nothing is unread, every answer shows the end. -/
theorem Reader.respond_atEnd {σ : Type} [CharSource σ] {reader : Reader σ}
    (h : unread reader.source = []) (request : Request) : (reader.respond request).answer.AtEnd := by
  have hread : ∀ skipEmpty, (reader.readFields skipEmpty).fields? = none := by
    intro skipEmpty
    rw [fields?_readFields, h, readText_nil]
  cases request with
  | reader request =>
      cases request with
      | line skipEmpty trim =>
          simp [respond, serve, Answer.AtEnd, Reading.status, Reading.tokens, hread]
      | records count =>
          show (reader.serve (.records count)).answer.AtEnd
          rw [(reader.serve_records count).1]
          have hnone : reader.nextRecord.1 = none := by simp [nextRecord, hread]
          cases count with
          | zero => rfl
          | succ count => exact congrArg Prod.fst (takeRecords_of_none hnone count)
      | setComment comment => trivial
  | next => simp [respond, Answer.AtEnd, h]
  | peek => simp [respond, Answer.AtEnd, h]
  | isAtEnd => simp [respond, Answer.AtEnd, h]
  | rebind options =>
      cases hfault : options.fault? <;> simp [respond, ofOptions, hfault, Answer.AtEnd]

namespace Reader

variable {reader : Reader LineSource}

/-- The reader behind requests behind requests. -/
theorem afterAttending_append (reader : Reader LineSource) (requests later : List StreamRequest) :
    reader.afterAttending (requests ++ later) =
      (reader.afterAttending requests).afterAttending later :=
  List.foldl_append

/-- A request to a reader whose source is over takes the failure or leaves the source as it is. -/
theorem source_attend_of_over (h : reader.source.Over) (request : StreamRequest) :
    (reader.attend request).reader.source =
      { reader.source with
        error := if .takeError = request then none else reader.source.error } := by
  cases request with
  | session request => exact h.invariant.respond rfl request
  | takeError => rfl

/-- Requests to a reader whose source is over take the failure or leave the source as it is. -/
theorem source_afterAttending_of_over (h : reader.source.Over) (requests : List StreamRequest) :
    (reader.afterAttending requests).source =
      { reader.source with
        error := if .takeError ∈ requests then none else reader.source.error } := by
  induction requests generalizing reader with
  | nil => rfl
  | cons request requests ih =>
      have hattended := source_attend_of_over h request
      have hover : (reader.attend request).reader.source.Over := by
        rw [hattended]
        exact h.with_error _ _
      show ((reader.attend request).reader.afterAttending requests).source = _
      rw [ih hover, hattended]
      by_cases hrequest : .takeError = request
      · simp [hrequest]
      · simp [hrequest]

/-- Requests to a reader whose source is over show the end. -/
theorem attended_atEnd (h : reader.source.Over) (requests : List StreamRequest) :
    ∀ reply ∈ reader.attended requests, ∀ answer, reply.report = .answer answer →
      answer.AtEnd := by
  induction requests generalizing reader with
  | nil => simp [attended]
  | cons request requests ih =>
      intro reply hreply answer hanswer
      rcases List.mem_cons.mp hreply with rfl | hlater
      · cases request with
        | session request =>
            obtain rfl := Report.answer.inj hanswer
            exact respond_atEnd h.unread_eq_nil request
        | takeError => exact absurd hanswer (by simp [attend])
      · refine ih ?_ reply hlater answer hanswer
        rw [source_attend_of_over h request]
        exact h.with_error _ _

/-- A reader over the lines of a stream gives the answers of a reader that it agrees with, whether
failures are taken in between or not. -/
theorem Agrees.attended {σ : Type} [CharSource σ] {second : Reader σ} (h : reader.Agrees second)
    (requests : List StreamRequest) :
    (reader.attended requests).filterMap (·.report.answer?) =
      (replies Reader.respond second (requests.filterMap StreamRequest.session?)).map
        Reply.answer := by
  induction requests generalizing reader second with
  | nil => rfl
  | cons request requests ih =>
      cases request with
      | session request =>
          obtain ⟨hanswer, hafter⟩ := h.respond request
          exact congrArg₂ List.cons hanswer (ih hafter)
      | takeError => exact ih (h.withSource h.unread)

end Reader

/-- A relation between the failures taken, the failures met and a source of lines that requests for
characters and the taking of failures keep. -/
structure StreamLedger (Holds : List StreamError → List StreamError → LineSource → Prop) : Prop where
  source : ∀ taken, SourceLedger (Holds taken)
  takeError : ∀ taken met source, Holds taken met source →
    Holds (taken ++ source.error.toList) met source.takeError.2

namespace StreamLedger

variable {Holds : List StreamError → List StreamError → LineSource → Prop}
  {taken met : List StreamError} {reader : Reader LineSource}

/-- Each request keeps a ledger. -/
theorem attend (hledger : StreamLedger Holds) (h : Holds taken met reader.source)
    (request : StreamRequest) :
    let reply := reader.attend request
    Holds (taken ++ reply.report.taken?.toList) (met ++ failures reply.events)
      reply.reader.source := by
  cases request with
  | session request =>
      have hsession := (hledger.source taken).respond met h request
      simpa [Reader.attend, Report.taken?] using hsession
  | takeError =>
      have htaken := hledger.takeError taken met reader.source h
      simpa [Reader.attend, Report.taken?, LineSource.takeError] using htaken

/-- All requests keep a ledger. -/
theorem attended (hledger : StreamLedger Holds) (taken met : List StreamError)
    (h : Holds taken met reader.source) (requests : List StreamRequest) :
    let given := reader.attended requests
    Holds (taken ++ takenFailures given) (met ++ notedFailures given)
      (reader.afterAttending requests).source := by
  induction requests generalizing reader taken met with
  | nil => simpa [Reader.attended, Reader.afterAttending, takenFailures, notedFailures] using h
  | cons request requests ih =>
      have hlater := ih _ _ (hledger.attend h request)
      simp only [List.append_assoc] at hlater
      simp only [Reader.attended, takenFailures_cons, notedFailures_cons]
      exact hlater

end StreamLedger

/-- What is accounted for stays so whenever failures are taken. -/
theorem LineSource.accounts_streamLedger (stop : Segment) : StreamLedger (Accounts stop) where
  source := accounts_ledger stop
  takeError _ _ _ h :=
    { capacity := h.capacity
      stop_of_open := h.stop_of_open
      held_of_finished := h.held_of_finished
      met_eq := h.met_eq
      error := by simpa [takeError] using h.error }

/-- Where the failure is accounted for, a source is over exactly if it is finished. -/
theorem LineSource.Accounts.over_iff {stop : Segment} {taken met : List StreamError}
    {source : LineSource} (h : source.Accounts stop taken met) :
    source.Over ↔ source.finished = true :=
  ⟨fun hover ↦ hover.finished, fun hfinished ↦
    over_of_finished hfinished (h.held_of_finished hfinished)⟩

/-- What is accounted for behind the requests of a session. -/
theorem Reader.accounts_attended {capacity : Nat} (hcapacity : 0 < capacity)
    (events : List StreamEvent) (options : Options) (requests : List StreamRequest) :
    let start : Reader LineSource := { source := .ofEvents capacity events, options }
    let given := start.attended requests
    (start.afterAttending requests).source.Accounts (firstUndelivered events)
      (takenFailures given) (notedFailures given) := by
  intro start given
  have hstart : start.source.Accounts (firstUndelivered events) [] [] :=
    LineSource.accounts_ofEvents hcapacity events
  exact (LineSource.accounts_streamLedger _).attended [] [] hstart requests

/-- What a source is going to hand out is an end of the text that it was to hand out before. -/
theorem CharSource.unread_suffix {σ : Type} [CharSource σ] (text : List Char) :
    SourceInvariant fun source : σ ↦ unread source <:+ text where
  next source h := by
    rw [unread_next]
    exact (List.tail_suffix _).trans h
  peek source h := by rwa [unread_peek]

/-- Let a reader over the lines of a stream, and the source below it, be asked for anything, in any
order. They answer as over the text of the segments before the first one that is empty, was hit by a
failure or is not UTF-8. A request for a character that gives none leaves the source over: that text
has been handed out in full, every later answer shows the end, and no stream put below is read. The
source is finished once it has tried to read that segment. Then the failure of the segment, if it
has one, has been met, and not before; and whenever it is asked for it is given once. -/
theorem failure_reported_once {capacity : Nat} (hcapacity : 0 < capacity)
    (events : List StreamEvent) (options : Options) (requests : List StreamRequest) :
    let text := deliveredText events
    let stop := firstUndelivered events
    let start : Reader LineSource := { source := .ofEvents capacity events, options }
    let given := start.attended requests
    let last := start.afterAttending requests
    (given.filterMap (·.report.answer?) =
        (replies Reader.respond ({ source := .ofText text, options } : Reader TextSource)
          (requests.filterMap StreamRequest.session?)).map Reply.answer ∧
      unread last.source <:+ text.toList) ∧
    ((∀ source : LineSource, ∀ pull ∈ [CharSource.next source, CharSource.peek source],
        pull.char = none → pull.source.Over) ∧
      (last.source.Over ↔ last.source.finished = true) ∧
      (last.source.Over → unread last.source = [] ∧
        ∀ (stream : ByteStream) (later : List StreamRequest),
          let moved : Reader LineSource := { last with source := { last.source with stream } }
          (moved.afterAttending later).source.stream = stream ∧
          ∀ reply ∈ moved.attended later, ∀ answer, reply.report = .answer answer →
            answer.AtEnd)) ∧
    ((last.source.finished = false → last.source.stream.stop = stop) ∧
      takenFailures given ++ last.source.error.toList = notedFailures given ∧
      notedFailures given = (if last.source.finished then stop.error?.toList else []) ∧
      (last.source.finished = true → ∀ later : List StreamRequest, .takeError ∈ later →
        takenFailures (start.attended (requests ++ later)) = stop.error?.toList)) := by
  intro text stop start given last
  have hlast := Reader.accounts_attended hcapacity events options requests
  have hover := hlast.over_iff
  refine ⟨⟨?_, ?_⟩, ⟨?_, hover, ?_⟩, ⟨hlast.stop_of_open, hlast.error, hlast.met_eq, ?_⟩⟩
  · exact (agrees_ofEvents hcapacity events options).attended requests
  · have hsuffix : StreamLedger fun _ _ source ↦ unread source <:+ text.toList :=
      ⟨fun _ ↦ (CharSource.unread_suffix text.toList).ledger, fun _ _ _ h ↦ h⟩
    have hstart : unread start.source = text.toList := LineSource.unread_ofEvents hcapacity events
    have hsuffixStart : unread start.source <:+ text.toList := ⟨[], hstart⟩
    exact hsuffix.attended [] [] hsuffixStart requests
  · intro source pull hpull hnone
    exact LineSource.over_of_none (by simpa using hpull) hnone
  · intro hlastOver
    refine ⟨hlastOver.unread_eq_nil, ?_⟩
    intro stream later moved
    have hmoved : moved.source.Over := hlastOver.with_error stream _
    refine ⟨?_, Reader.attended_atEnd hmoved later⟩
    rw [Reader.source_afterAttending_of_over hmoved later]
  · intro hfinished later hasked
    have hlater := Reader.accounts_attended hcapacity events options (requests ++ later)
    have hsource := Reader.source_afterAttending_of_over (hover.mpr hfinished) later
    rw [if_pos hasked] at hsource
    have hmet := hlater.met_eq
    have herror := hlater.error
    -- none is kept behind a request for it, so the one that was met is among those taken
    rw [start.afterAttending_append, hsource] at hmet herror
    rw [hmet, if_pos hfinished] at herror
    simpa using herror

/-- A line with a valid beginning is lost to a failure of the device; what would follow is not read,
and the failure is given at the second of three requests for it. -/
theorem failure_reported_once_behind_partial_line :
    let events : List StreamEvent :=
      [.data [0x61, 0x2C, 0x62, 0x0A, 0xC3], .interruption, .data [0xA9], .failure "gone",
        .data [0x63, 0x0A]]
    let start : Reader LineSource := { source := .ofEvents 2 events }
    let requests : List StreamRequest :=
      [.session (.reader (.line true false)), .takeError, .session .next]
    let later : List StreamRequest := [.takeError, .session .peek, .takeError]
    0 < 2 ∧
      (start.attended (requests ++ later)).filterMap (·.report.answer?) =
        [.line .line ["a", "b"] 1, .char none, .char none] ∧
      takenFailures (start.attended (requests ++ later)) = [.device "gone"] := by
  intro events start requests later
  have hcapacity : 0 < 2 := by decide
  obtain ⟨⟨hanswers, _⟩, _⟩ := failure_reported_once hcapacity events {} (requests ++ later)
  obtain ⟨_, _, _, _, _, htaken⟩ := failure_reported_once hcapacity events {} requests
  refine ⟨hcapacity, hanswers.trans (by decide +kernel), ?_⟩
  rw [htaken (by decide +kernel) later (by decide)]
  decide +kernel

end Delimited
