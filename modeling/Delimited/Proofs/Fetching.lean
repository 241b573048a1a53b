import Delimited.Proofs.Invariants
import Delimited.Proofs.Segments

/-!
# What a source of lines fetches

A request for a character reads the stream below a source of lines only if nothing is left in hand,
and then one segment of it. `LineSource.Step` lists what such a request can do, so that whatever
these steps keep is kept by every read: `LineSource.ledger_of_step`.

The source stops at the first segment without a text, `ByteStream.stop`. `LineSource.Accounts`
follows the failure of that segment: none is met before it, its own is met once, and it is kept
until it is taken.
-/

namespace Delimited

/-- The failure that a segment without a text ends a source with: that of the device or, if there
was none, that the bytes are not UTF-8. An empty segment ends a source without a failure. -/
def Segment.error? (segment : Segment) : Option StreamError :=
  match segment.failure with
  | some reason => some (.device reason)
  | none =>
      if (String.fromUTF8? segment.bytes.toByteArray).isSome then none else some .notUtf8

/-- The first segment without a text. Behind the last segment there is nothing to read. -/
def stopSegment (segments : List Segment) : Segment :=
  (segments.find? (·.text?.isNone)).getD { bytes := [] }

/-- The segment that reading the lines of a stream stops at. -/
def ByteStream.stop (stream : ByteStream) : Segment :=
  stopSegment (segments [] stream.signals)

/-- The first segment of a stream whose text is not delivered. -/
def firstUndelivered (events : List StreamEvent) : Segment :=
  stopSegment (segments [] (events.flatMap StreamEvent.signals))

/-- A segment with a text is passed by. -/
theorem stopSegment_cons_some {segment : Segment} {text : String} (h : segment.text? = some text)
    (rest : List Segment) : stopSegment (segment :: rest) = stopSegment rest := by
  simp [stopSegment, h]

/-- A segment without a text is where reading stops. -/
theorem stopSegment_cons_none {segment : Segment} (h : segment.text? = none)
    (rest : List Segment) : stopSegment (segment :: rest) = segment := by
  simp [stopSegment, h]

/-- The UTF-8 form of characters. -/
def utf8 (chars : List Char) : List UInt8 :=
  chars.flatMap String.utf8EncodeChar

@[simp] theorem utf8_append (chars more : List Char) :
    utf8 (chars ++ more) = utf8 chars ++ utf8 more :=
  List.flatMap_append

/-- A character has a byte for each unit of its size. -/
@[simp] theorem length_utf8_singleton (char : Char) : (utf8 [char]).length = char.utf8Size := by
  simp [utf8]

/-- The bytes of a text are the UTF-8 form of its characters. -/
theorem toByteArray_utf8 (text : String) : (utf8 text.toList).toByteArray = text.toByteArray :=
  String.utf8Encode_toList

/-- A text has as many bytes as its UTF-8 form. -/
theorem length_utf8_toList (text : String) : (utf8 text.toList).length = text.utf8ByteSize := by
  rw [← List.size_toByteArray, toByteArray_utf8]
  rfl

namespace Segment

/-- A segment with a text holds the UTF-8 form of that text. -/
theorem bytes_eq_utf8 {segment : Segment} {text : String} (h : segment.text? = some text) :
    segment.bytes = utf8 text.toList := by
  unfold text? at h
  split at h
  · exact absurd h (by simp)
  · have hsame : segment.bytes.toByteArray = (utf8 text.toList).toByteArray := by
      unfold String.fromUTF8? at h
      split at h
      · obtain rfl := Option.some.inj h
        rw [toByteArray_utf8]
        rfl
      · exact absurd h (by simp)
    have hdata := congrArg (·.data.toList) hsame
    simpa using hdata

/-- A segment that has neither a text nor a failure is empty. -/
theorem bytes_eq_nil {segment : Segment} (htext : segment.text? = none)
    (herror : segment.error? = none) : segment.bytes = [] := by
  unfold text? at htext
  unfold error? at herror
  cases hfailure : segment.failure with
  | some reason => simp [hfailure] at herror
  | none =>
      by_contra hbytes
      simp_all

/-- An empty segment that was not hit by a failure has none. -/
theorem error?_empty : ({ bytes := [] } : Segment).error? = none := by
  rfl

/-- A segment is decoded to its text, its failure or the end. -/
theorem decode_eq (segment : Segment) :
    segment.decode =
      match segment.text?, segment.error? with
      | some text, _ => .line text
      | none, some error => .failed error
      | none, none => .ended := by
  cases htext : segment.text? with
  | some text => exact decode_eq_line_iff.mpr htext
  | none =>
      obtain ⟨bytes, failure⟩ := segment
      cases failure with
      | some reason => rfl
      | none =>
          by_cases hempty : bytes = []
          · subst hempty
            rw [error?_empty]
            rfl
          · have hnone : String.fromUTF8? bytes.toByteArray = none := by
              simpa [text?, hempty] using htext
            simp [decode, error?, hempty, hnone]

end Segment

namespace ByteStream

/-- A stream that stops at once has no text. -/
theorem text_eq_nil {stream : ByteStream} (h : stream.readSegment.1.text? = none) :
    stream.text = [] := by
  have hdecode := stream.readSegment.1.decode_eq
  rw [h] at hdecode
  cases herror : stream.readSegment.1.error? with
  | some error =>
      rw [herror] at hdecode
      exact ByteStream.text_of_failed hdecode
  | none =>
      rw [herror] at hdecode
      exact ByteStream.text_of_ended hdecode

/-- The segments left have the stop of the stream that still has them. -/
theorem Leaves.stop {behind : List Segment} {stream : ByteStream} (h : Leaves behind stream) :
    stopSegment behind = stream.stop := by
  unfold ByteStream.stop
  rcases h with rfl | ⟨rfl, hsignals⟩
  · rfl
  · rw [hsignals]
    rfl

/-- Reading a segment with a text leaves the stop ahead. -/
theorem stop_readSegment {stream : ByteStream} (hcapacity : 0 < stream.capacity) {text : String}
    (h : stream.readSegment.1.text? = some text) : stream.readSegment.2.stop = stream.stop := by
  obtain ⟨behind, hsegments, hbehind⟩ := segments_readSegment hcapacity
  rw [← hbehind.stop, ByteStream.stop, hsegments, stopSegment_cons_some h]

/-- A segment without a text that is read is the stop. -/
theorem readSegment_eq_stop {stream : ByteStream} (hcapacity : 0 < stream.capacity)
    (h : stream.readSegment.1.text? = none) : stream.readSegment.1 = stream.stop := by
  obtain ⟨behind, hsegments, _⟩ := segments_readSegment hcapacity
  rw [ByteStream.stop, hsegments, stopSegment_cons_none h]

end ByteStream

namespace LineSource

/-- What a request for a character can do to a source, with the failure that it meets. -/
inductive Step (source : LineSource) : Option StreamError → LineSource → Prop
  /-- A line is fetched. -/
  | line {text : String} (hheld : source.held = []) (hopen : source.finished = false)
      (htext : source.stream.readSegment.1.text? = some text) :
      Step source none
        { source with stream := source.stream.readSegment.2, line := text, cursor := 0 }
  /-- A segment without a text is met. -/
  | stop {error? : Option StreamError} (hheld : source.held = []) (hopen : source.finished = false)
      (htext : source.stream.readSegment.1.text? = none)
      (herror : source.stream.readSegment.1.error? = error?) :
      Step source error?
        { stream := source.stream.readSegment.2, finished := true, error := error?.or source.error }
  /-- The cursor moves over a character in hand. -/
  | advance {char : Char} {rest : List Char} (hheld : source.held = char :: rest) :
      Step source none { source with cursor := source.cursor + char }

/-- Fetching is a step. -/
theorem step_fetch {source : LineSource} (hheld : source.held = [])
    (hopen : source.finished = false) : source.Step source.fetch.2 source.fetch.1 := by
  have hdecode := source.stream.readSegment.1.decode_eq
  show source.Step
    (source.hold source.stream.readSegment.2 source.stream.readSegment.1.decode).2
    (source.hold source.stream.readSegment.2 source.stream.readSegment.1.decode).1
  cases htext : source.stream.readSegment.1.text? with
  | some text =>
      rw [htext] at hdecode
      rw [hdecode]
      exact .line hheld hopen htext
  | none =>
      rw [htext] at hdecode
      cases herror : source.stream.readSegment.1.error? with
      | some error =>
          rw [herror] at hdecode
          rw [hdecode]
          exact .stop hheld hopen htext herror
      | none =>
          rw [herror] at hdecode
          rw [hdecode]
          exact .stop hheld hopen htext herror

/-- With nothing in hand after filling there is no next character. -/
theorem next_of_nil {source : LineSource} (h : source.fill.1.held = []) :
    source.next = { char := none, failure := source.fill.2, source := source.fill.1 } := by
  have hcursor := source.fill.1.get?_cursor
  rw [h] at hcursor
  simp [next, hcursor]

/-- The next character is the first one in hand after filling. -/
theorem next_of_cons {source : LineSource} {char : Char} {rest : List Char}
    (h : source.fill.1.held = char :: rest) :
    source.next =
      { char := some char
        failure := source.fill.2
        source := { source.fill.1 with cursor := source.fill.1.cursor + char } } := by
  have hcursor := source.fill.1.get?_cursor
  rw [h] at hcursor
  simp [next, hcursor]

/-- A fetch that leaves nothing in hand finishes the source. -/
theorem Step.finished {source after : LineSource} {failure : Option StreamError}
    (hstep : source.Step failure after) (hheld : source.held = []) (hafter : after.held = []) :
    after.finished = true := by
  cases hstep with
  | line _ _ htext =>
      have htoList := Segment.toList_ne_nil_of_decode (Segment.decode_eq_line_iff.mpr htext)
      exact absurd hafter (by simpa [held] using htoList)
  | stop => rfl
  | advance hcons => exact absurd (hheld.symm.trans hcons) (by simp)

/-- Filling leaves nothing in hand only where the source is finished. -/
theorem finished_fill {source : LineSource} (h : source.fill.1.held = []) :
    source.fill.1.finished = true := by
  unfold fill at h ⊢
  rw [get?_cursor] at h ⊢
  cases hheld : source.held with
  | cons char rest =>
      rw [hheld] at h
      exact absurd (hheld.symm.trans h) (by simp)
  | nil =>
      rw [hheld] at h
      cases hopen : source.finished with
      | true => simpa using hopen
      | false =>
          rw [hopen] at h
          exact (step_fetch hheld hopen).finished hheld h

/-- A request for a character that gives none leaves the source finished and nothing in hand. -/
theorem finished_of_none {source : LineSource} {pull : Pull LineSource}
    (hpull : pull = CharSource.next source ∨ pull = CharSource.peek source)
    (hnone : pull.char = none) : pull.source.finished = true ∧ pull.source.held = [] := by
  have hhead : source.unread.head? = none := by
    rcases hpull with rfl | rfl
    · exact (CharSource.char_next source).symm.trans hnone
    · exact (CharSource.char_peek source).symm.trans hnone
  have hheld : source.fill.1.held = [] := by
    have hget := source.get?_cursor_fill
    rw [get?_cursor, unread_fill, hhead] at hget
    exact List.head?_eq_none_iff.mp hget
  have hsource : pull.source = source.fill.1 := by
    rcases hpull with rfl | rfl
    · exact congrArg Pull.source (next_of_nil hheld)
    · rfl
  rw [hsource]
  exact ⟨finished_fill hheld, hheld⟩

variable {Holds : List StreamError → LineSource → Prop}

/-- Filling does nothing or fetches. -/
theorem fill_keeps (hstep : ∀ {met source failure after}, Step source failure after →
      Holds met source → Holds (met ++ failure.toList) after)
    {met : List StreamError} {source : LineSource} (hsource : Holds met source) :
    Holds (met ++ source.fill.2.toList) source.fill.1 := by
  unfold fill
  rw [get?_cursor]
  cases hheld : source.held with
  | cons char rest => simpa using hsource
  | nil =>
      cases hopen : source.finished with
      | true => simpa using hsource
      | false => exact hstep (step_fetch hheld hopen) hsource

/-- What each step keeps is kept by requests for characters. -/
theorem ledger_of_step (hstep : ∀ {met source failure after}, Step source failure after →
      Holds met source → Holds (met ++ failure.toList) after) : SourceLedger Holds where
  next met source hsource := by
    have hfilled := fill_keeps hstep hsource
    show Holds (met ++ source.next.failure.toList) source.next.source
    cases hheld : source.fill.1.held with
    | nil => rwa [next_of_nil hheld]
    | cons char rest =>
        have hadvanced := hstep (.advance hheld) hfilled
        rw [next_of_cons hheld]
        simpa using hadvanced
  peek met source hsource := fill_keeps hstep hsource

/-- What each step keeps of the source alone is kept by requests for characters. -/
theorem invariant_of_step {Keeps : LineSource → Prop}
    (hstep : ∀ {source failure after}, Step source failure after → Keeps source → Keeps after) :
    SourceInvariant Keeps := by
  have hledger : SourceLedger fun _ source ↦ Keeps source := ledger_of_step fun h ↦ hstep h
  exact ⟨hledger.next [], hledger.peek []⟩

/-- What has become of the failure of the segment that a source stops at, when these failures were
taken and these were met: nothing before it is reached, and from then on it is met, and taken or
kept. -/
structure Accounts (stop : Segment) (taken met : List StreamError) (source : LineSource) : Prop where
  capacity : 0 < source.stream.capacity
  stop_of_open : source.finished = false → source.stream.stop = stop
  held_of_finished : source.finished = true → source.held = []
  met_eq : met = if source.finished then stop.error?.toList else []
  error : taken ++ source.error.toList = met

/-- What is accounted for stays so at each step. -/
theorem Accounts.step {stop : Segment} {taken met : List StreamError} {source after : LineSource}
    {failure : Option StreamError} (hstep : source.Step failure after)
    (h : Accounts stop taken met source) : Accounts stop taken (met ++ failure.toList) after := by
  have hmet := h.met_eq
  have herrors := h.error
  cases hstep with
  | line hheld hopen htext =>
      have hstop := ByteStream.stop_readSegment h.capacity htext
      refine ⟨by simpa using h.capacity, ?_, ?_, by simpa using hmet, by simpa using herrors⟩
      · intro _
        rw [hstop, h.stop_of_open hopen]
      · intro hfinished
        exact absurd hfinished (by simp [hopen])
  | stop hheld hopen htext herror =>
      have hstop := ByteStream.readSegment_eq_stop h.capacity htext
      rw [hstop, h.stop_of_open hopen] at herror
      rw [hmet, hopen] at herrors
      -- an open source has met no failure, so none was taken and none is kept
      have hkept : taken = [] ∧ source.error = none := by simpa using herrors
      rw [hmet, hopen, hkept.1, hkept.2, ← herror]
      exact ⟨by simpa using h.capacity, by simp, fun _ ↦ rfl, by simp, by simp⟩
  | advance hheld =>
      refine ⟨h.capacity, h.stop_of_open, ?_, by simpa using hmet, by simpa using herrors⟩
      intro hfinished
      rw [h.held_of_finished hfinished] at hheld
      exact absurd hheld (by simp)

/-- What is accounted for stays so in every read. -/
theorem accounts_ledger (stop : Segment) (taken : List StreamError) :
    SourceLedger fun met source ↦ Accounts stop taken met source :=
  ledger_of_step fun hstep h ↦ h.step hstep

/-- From a source of lines from which nothing has been read, nothing was met. -/
theorem accounts_ofEvents {capacity : Nat} (hcapacity : 0 < capacity) (events : List StreamEvent) :
    Accounts (firstUndelivered events) [] [] (ofEvents capacity events) :=
  ⟨hcapacity, fun _ ↦ rfl, fun _ ↦ rfl, rfl, rfl⟩

end LineSource

end Delimited
