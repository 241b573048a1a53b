import Delimited.Proofs.TakenRecords
import Delimited.Proofs.TextReading

/-!
# What sessions keep

Reading touches its source in no other way than by requests for characters, and notes each failure
that one of them meets. So what requests for characters keep, between a source and the failures met
so far, is kept by every read: `SourceLedger.readFields`. A property of the source alone is the
special case `SourceInvariant`. A property of readers that is kept by reads and by changes of the
comment character holds throughout a session. Both inductions are made here once.
-/

namespace Delimited

variable {σ : Type} [CharSource σ]

/-- The failure that an event notes, if it notes one. -/
def Event.failure? : Event → Option StreamError
  | .streamFailed error => some error
  | _ => none

/-- The failures that events note, in order. -/
def failures (events : Array Event) : List StreamError :=
  events.toList.filterMap Event.failure?

@[simp] theorem failures_empty : failures #[] = [] := rfl

@[simp] theorem failures_append (events more : Array Event) :
    failures (events ++ more) = failures events ++ failures more := by
  simp [failures]

/-- An event that notes no failure leaves the failures alone. -/
theorem failures_push {event : Event} (h : event.failure? = none) (events : Array Event) :
    failures (events.push event) = failures events := by
  simp [failures, h]

omit [CharSource σ] in
/-- The only failure noted for a request for a character is the one that it met. -/
@[simp] theorem failures_pull (pull : Pull σ) : failures pull.events = pull.failure.toList := by
  cases h : pull.failure <;> simp [Pull.events, failures, Event.failure?, h]

/-- A relation between the failures met so far and the source that requests for characters keep. -/
structure SourceLedger (Holds : List StreamError → σ → Prop) : Prop where
  next : ∀ met source, Holds met source →
    Holds (met ++ (CharSource.next source).failure.toList) (CharSource.next source).source
  peek : ∀ met source, Holds met source →
    Holds (met ++ (CharSource.peek source).failure.toList) (CharSource.peek source).source

/-- A property of sources that requests for characters keep. -/
structure SourceInvariant (Holds : σ → Prop) : Prop where
  next : ∀ source, Holds source → Holds (CharSource.next source).source
  peek : ∀ source, Holds source → Holds (CharSource.peek source).source

/-- A property of readers that reads and changes of the comment character keep. -/
structure ReaderInvariant (Holds : Reader σ → Prop) : Prop where
  readFields : ∀ reader skipEmpty, Holds reader → Holds (reader.readFields skipEmpty).reader
  setComment : ∀ reader comment, Holds reader → Holds (reader.setComment comment).1

namespace SourceLedger

variable {Holds : List StreamError → σ → Prop} {met : List StreamError} {source : σ}

/-- Taking a character after some events keeps a ledger. -/
theorem next_events (h : SourceLedger Holds) {events : Array Event}
    (hsource : Holds (met ++ failures events) source) :
    Holds (met ++ failures (events ++ (CharSource.next source).events))
      (CharSource.next source).source := by
  have hnext := h.next _ source hsource
  simpa using hnext

/-- Looking at a character keeps a ledger. -/
theorem peek_events (h : SourceLedger Holds) (hsource : Holds met source) :
    Holds (met ++ failures (CharSource.peek source).events) (CharSource.peek source).source := by
  have hpeek := h.peek _ source hsource
  simpa using hpeek

/-- Looking at a character and taking it keeps a ledger. -/
theorem peek_next (h : SourceLedger Holds) (hsource : Holds met source) :
    let ahead := CharSource.peek source
    Holds (met ++ failures (ahead.events ++ (CharSource.next ahead.source).events))
      (CharSource.next ahead.source).source :=
  h.next_events (h.peek_events hsource)

/-- Dropping the rest of a line keeps a ledger. -/
theorem skipLine (h : SourceLedger Holds) (met : List StreamError) (events : Array Event)
    (hsource : Holds (met ++ failures events) source) :
    Holds (met ++ failures (skipLine source events).events) (skipLine source events).source := by
  fun_induction Delimited.skipLine source events with
  | case1 => exact h.next_events hsource
  | case2 => exact h.next_events hsource
  | case3 _ _ _ _ _ _ _ ih => exact ih (h.next_events hsource)

/-- Reacting to a character between quotes keeps a ledger. -/
theorem reactQuoted (h : SourceLedger Holds) (scan : LineScan) (char : Char)
    (hsource : Holds met source) :
    Holds (met ++ failures (scan.reactQuoted char source).events)
      (scan.reactQuoted char source).source := by
  unfold LineScan.reactQuoted
  split
  · dsimp only
    split
    · exact h.peek_next hsource
    · exact h.peek_events hsource
  · split
    · exact h.peek_events hsource
    · simpa using hsource

/-- Reacting to text keeps a ledger. -/
theorem reactText (h : SourceLedger Holds) (dialect : Dialect) (scan : LineScan) (char : Char)
    (hsource : Holds met source) :
    Holds (met ++ failures (scan.reactText dialect char source).events)
      (scan.reactText dialect char source).source := by
  unfold LineScan.reactText
  split
  · exact h.skipLine met #[] (by simpa using hsource)
  · split <;> simpa using hsource

/-- Reacting to a character outside quotes keeps a ledger. -/
theorem reactPlain (h : SourceLedger Holds) (dialect : Dialect) (scan : LineScan) (char : Char)
    (hsource : Holds met source) :
    Holds (met ++ failures (scan.reactPlain dialect char source).events)
      (scan.reactPlain dialect char source).source := by
  unfold LineScan.reactPlain
  split
  · simpa using hsource
  · split
    · simpa using hsource
    · split
      · dsimp only
        split
        · exact h.peek_next hsource
        · have htext := h.reactText dialect scan char (h.peek_events hsource)
          simpa using htext
      · exact h.reactText dialect scan char hsource

/-- Reacting to a character keeps a ledger. -/
theorem react (h : SourceLedger Holds) (met : List StreamError) (dialect : Dialect)
    (scan : LineScan) (char : Char) (hsource : Holds met source) :
    Holds (met ++ failures (scan.react dialect char source).events)
      (scan.react dialect char source).source := by
  unfold LineScan.react
  split
  · exact h.reactQuoted scan char hsource
  · exact h.reactPlain dialect scan char hsource
  · exact h.reactPlain dialect scan char hsource

/-- Reacting to a character after some events keeps a ledger. -/
theorem react_events (h : SourceLedger Holds) (dialect : Dialect) (scan : LineScan) (char : Char)
    {events : Array Event} (hsource : Holds (met ++ failures events) source) :
    Holds (met ++ failures (events ++ (scan.react dialect char source).events))
      (scan.react dialect char source).source := by
  have hreact := h.react (met ++ failures events) dialect scan char hsource
  simpa using hreact

/-- Scanning a line keeps a ledger. -/
theorem scanLine (h : SourceLedger Holds) (dialect : Dialect) (scan : LineScan) (char : Char)
    (events : Array Event) (hsource : Holds (met ++ failures events) source) :
    Holds (met ++ failures (scanLine dialect scan char source events).events)
      (scanLine dialect scan char source events).source := by
  fun_induction Delimited.scanLine dialect scan char source events with
  | case1 scan char source events => exact h.react_events dialect scan char hsource
  | case2 scan char source events =>
      exact h.next_events (h.react_events dialect scan char hsource)
  | case3 scan char source events _ _ _ _ _ _ _ ih =>
      exact ih (h.next_events (h.react_events dialect scan char hsource))

/-- Testing for an empty line keeps a ledger. -/
theorem ofFirst (h : SourceLedger Holds) (first : Char) {events : Array Event}
    (hsource : Holds (met ++ failures events) source) :
    Holds (met ++ failures (events ++ (LineEnd.ofFirst first source).events))
      (LineEnd.ofFirst first source).source := by
  unfold LineEnd.ofFirst
  split
  · simpa using hsource
  · split
    · dsimp only
      split
      · have hnext := h.peek_next hsource
        simpa using hnext
      · have hpeek := h.peek_events hsource
        simpa using hpeek
    · simpa using hsource

/-- Reading keeps a ledger. -/
theorem readFields (h : SourceLedger Holds) (met : List StreamError) (reader : Reader σ)
    (skipEmpty : Bool) (events : Array Event)
    (hsource : Holds (met ++ failures events) reader.source) :
    Holds (met ++ failures (reader.readFields skipEmpty events).events)
      (reader.readFields skipEmpty events).reader.source := by
  fun_induction Reader.readFields reader skipEmpty events with
  | case1 reader events =>
      rw [failures_push rfl]
      exact h.next_events hsource
  | case2 reader events pull events' line events'' hnext hnewline ih =>
      refine ih ?_
      rw [failures_push rfl]
      exact h.next_events hsource
  | case3 reader events pull events' line events'' skipped hnext hnewline ih =>
      refine ih ?_
      have hfirst : Holds (met ++ failures events'') pull.source := by
        rw [failures_push rfl]
        exact h.next_events hsource
      have hskipped := h.skipLine (met ++ failures events'') #[] (by simpa using hfirst)
      simpa using hskipped
  | case4 reader events pull events' first hnext line hcomment lineEnd events'' hempty hskip ih =>
      refine ih ?_
      rw [failures_push rfl]
      exact h.ofFirst first (h.next_events hsource)
  | case5 reader events pull events' first => exact h.ofFirst first (h.next_events hsource)
  | case6 reader events pull events' first hnext line hcomment lineEnd events'' hempty scanned =>
      have hfirst : Holds (met ++ failures events'') lineEnd.source :=
        h.ofFirst first (h.next_events hsource)
      have hscanned := h.scanLine reader.options.dialect {} first #[] (by simpa using hfirst)
      rw [failures_push rfl]
      simpa using hscanned

/-- Taking records keeps a ledger. -/
theorem take (h : SourceLedger Holds) (count : Nat) (records : RecordReader σ)
    (hsource : Holds (met ++ failures records.events) records.reader.source)
    (taken : Array Record) :
    let rest := (RecordSource.take records count taken).2
    Holds (met ++ failures rest.events) rest.reader.source := by
  induction count generalizing records taken with
  | zero => exact hsource
  | succ count ih =>
      have hnext : Holds (met ++ failures (RecordSource.next records).2.events)
          (RecordSource.next records).2.reader.source := by
        have hread := h.readFields (met ++ failures records.events) records.reader
          records.reader.options.skipEmpty #[] (by simpa using hsource)
        show Holds (met ++ failures (records.events ++ _)) _
        rwa [failures_append, ← List.append_assoc]
      simp only [RecordSource.take]
      generalize RecordSource.next records = following at hnext ⊢
      obtain ⟨record?, rest⟩ := following
      cases record? with
      | none => exact hnext
      | some record => exact ih rest hnext (taken.push record)

/-- Answering a request to a reader keeps a ledger. -/
theorem serve (h : SourceLedger Holds) {reader : Reader σ} (hsource : Holds met reader.source)
    (request : ReaderRequest) :
    Holds (met ++ failures (reader.serve request).events)
      (reader.serve request).reader.source := by
  cases request with
  | line skipEmpty trim => exact h.readFields met reader skipEmpty #[] (by simpa using hsource)
  | records count => exact h.take count { reader } (by simpa using hsource) #[]
  | setComment comment =>
      have hnone : failures (reader.setComment comment).2.toArray = [] := by
        cases hfault : ({ reader.options with comment } : Options).fault? <;>
          simp [Reader.setComment, hfault, failures, Event.failure?]
      have hserved : (reader.serve (.setComment comment)).reader.source = reader.source := rfl
      rw [hserved]
      simpa [Reader.serve, hnone] using hsource

/-- Answering a request that may go past the reader keeps a ledger. -/
theorem respond (h : SourceLedger Holds) (met : List StreamError) {reader : Reader σ}
    (hsource : Holds met reader.source) (request : Request) :
    Holds (met ++ failures (reader.respond request).events)
      (reader.respond request).reader.source := by
  cases request with
  | reader request => exact h.serve hsource request
  | next =>
      have hnext := h.next met reader.source hsource
      simpa [Reader.respond] using hnext
  | peek => exact h.peek_events hsource
  | isAtEnd => exact h.peek_events hsource
  | rebind options =>
      cases hfault : options.fault? <;>
        simpa [Reader.respond, Reader.ofOptions, hfault] using hsource

end SourceLedger

namespace SourceInvariant

variable {Holds : σ → Prop}

/-- A property of the source alone is a ledger, whatever failures are met. -/
theorem ledger (h : SourceInvariant Holds) : SourceLedger fun _ source ↦ Holds source :=
  ⟨fun _ ↦ h.next, fun _ ↦ h.peek⟩

/-- Answering a request that may go past the reader keeps an invariant of the source. -/
theorem respond (h : SourceInvariant Holds) {reader : Reader σ} (hsource : Holds reader.source)
    (request : Request) : Holds (reader.respond request).reader.source :=
  h.ledger.respond [] hsource request

/-- What holds of the source of a reader is an invariant of the reader. -/
theorem toReader (h : SourceInvariant Holds) :
    ReaderInvariant (fun reader : Reader σ ↦ Holds reader.source) where
  readFields reader skipEmpty hsource :=
    h.ledger.readFields [] reader skipEmpty #[] hsource
  setComment _ _ hsource := hsource

end SourceInvariant

namespace ReaderInvariant

variable {Holds : Reader σ → Prop}

/-- Two invariants of a reader make one. -/
theorem and (h : ReaderInvariant Holds) {HoldsToo : Reader σ → Prop}
    (hmore : ReaderInvariant HoldsToo) :
    ReaderInvariant fun reader ↦ Holds reader ∧ HoldsToo reader where
  readFields reader skipEmpty hreader :=
    ⟨h.readFields reader skipEmpty hreader.1, hmore.readFields reader skipEmpty hreader.2⟩
  setComment reader comment hreader :=
    ⟨h.setComment reader comment hreader.1, hmore.setComment reader comment hreader.2⟩

/-- Taking records keeps an invariant of the reader. -/
theorem takeRecords (h : ReaderInvariant Holds) (count : Nat) {reader : Reader σ}
    (hreader : Holds reader) : Holds (reader.takeRecords count).2 := by
  induction count generalizing reader with
  | zero => exact hreader
  | succ count ih =>
      have hnext : Holds reader.nextRecord.2.reader :=
        h.readFields reader reader.options.skipEmpty hreader
      cases hrecord : reader.nextRecord.1 with
      | none => rwa [Reader.takeRecords_of_none hrecord]
      | some record =>
          rw [Reader.takeRecords_of_some hrecord]
          exact ih hnext

/-- Answering a request keeps an invariant of the reader. -/
theorem serve (h : ReaderInvariant Holds) {reader : Reader σ} (hreader : Holds reader)
    (request : ReaderRequest) : Holds (reader.serve request).reader := by
  cases request with
  | line skipEmpty trim => exact h.readFields reader skipEmpty hreader
  | records count =>
      rw [(reader.serve_records count).2]
      exact h.takeRecords count hreader
  | setComment comment => exact h.setComment reader comment hreader

/-- An invariant that holds of a reader holds after each of its replies. -/
theorem replies (h : ReaderInvariant Holds) {reader : Reader σ} (hreader : Holds reader)
    (requests : List ReaderRequest) :
    ∀ reply ∈ replies Reader.serve reader requests, Holds reply.reader := by
  induction requests generalizing reader with
  | nil => simp [Delimited.replies]
  | cons request requests ih =>
      have hserved := h.serve hreader request
      intro reply hreply
      rcases List.mem_cons.mp hreply with rfl | hrest
      · exact hserved
      · exact ih hserved reply hrest

/-- An invariant that holds of a reader holds of the one that a session leaves. -/
theorem after (h : ReaderInvariant Holds) {reader : Reader σ} (hreader : Holds reader)
    (requests : List ReaderRequest) : Holds (reader.after requests) := by
  induction requests generalizing reader with
  | nil => exact hreader
  | cons request requests ih => exact ih (h.serve hreader request)

end ReaderInvariant

/-- Reads and changes of the comment character change no other option. -/
theorem Reader.optionsBut_invariant (options : Options) :
    ReaderInvariant fun reader : Reader σ ↦
      reader.options = { options with comment := reader.options.comment } where
  readFields reader skipEmpty h := by rwa [options_readFields]
  setComment reader comment h := by
    show ({ reader.options with comment } : Options) = { options with comment }
    rw [h]

end Delimited
