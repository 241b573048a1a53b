import Delimited.Proofs.Lockstep

/-!
# Readers that agree

Two readers over the same unread text, with the same options, can differ in the lines that they have
counted and in the kinds of their sources. `Reader.Ahead.answers` says that no session with them
shows another difference than that between the counters: reading adds to the counter and never asks
for it.

Two readers agree when their counters are the same as well. `Reader.Agrees.answers` says that such
readers cannot be told apart by any run of requests, those that go past the reader to its source
included.
-/

namespace Delimited

open CharSource (unread)

variable {σ τ : Type} [CharSource σ] [CharSource τ]

/-- The record behind this many further lines. -/
def Record.behind (lines : Nat) (record : Record) : Record :=
  { record with line := record.line + lines }

/-- The answer of a reader that has counted this many further lines. -/
def Answer.behind (lines : Nat) : Answer → Answer
  | .line status tokens last => .line status tokens (last + lines)
  | .records taken last => .records (taken.map (Record.behind lines)) (last + lines)
  | answer => answer

/-- No further lines make no difference. -/
@[simp] theorem Record.behind_zero : Record.behind 0 = id := rfl

/-- No further lines make no difference. -/
@[simp] theorem Answer.behind_zero (answer : Answer) : answer.behind 0 = answer := by
  cases answer <;> simp [behind]

/-- A record behind further lines holds the same texts. -/
theorem Record.behind_eq_shown (lines : Nat) :
    Record.behind lines = Record.shown id (· + lines) := by
  funext record
  simp [behind, shown]

/-- The answer of a reader that has counted further lines holds the same tokens. -/
theorem Answer.behind_eq_shown (lines : Nat) (answer : Answer) :
    answer.behind lines = answer.shown id (· + lines) := by
  cases answer <;> simp [behind, shown, Record.behind_eq_shown]

/-- The first reader stands at the same place of the same text as the second one, with the same
options, and has counted this many lines more. -/
structure Reader.Ahead (lines : Nat) (first : Reader σ) (second : Reader τ) : Prop where
  options : first.options = second.options
  line : first.line = second.line + lines
  unread : unread first.source = unread second.source

/-- Two readers stand at the same place of the same text, with the same options. -/
structure Reader.Agrees (first : Reader σ) (second : Reader τ) : Prop where
  options : first.options = second.options
  line : first.line = second.line
  unread : unread first.source = unread second.source

/-- Two replies hold the same answer and leave readers that agree. -/
structure Reply.Agrees (first : Reply σ) (second : Reply τ) : Prop where
  answer : first.answer = second.answer
  reader : first.reader.Agrees second.reader

namespace Reader.Ahead

variable {lines : Nat} {first : Reader σ} {second : Reader τ}

/-- Whatever was counted before, the same fields are read. -/
theorem fields?_eq (h : first.Ahead lines second) (skipEmpty : Bool) :
    (first.readFields skipEmpty).fields? = (second.readFields skipEmpty).fields? := by
  rw [fields?_readFields, fields?_readFields, h.options, h.line, h.unread, readText_add]

/-- A read keeps the distance of the counters. -/
theorem readFields (h : first.Ahead lines second) (skipEmpty : Bool) :
    (first.readFields skipEmpty).reader.Ahead lines (second.readFields skipEmpty).reader where
  options := by rw [options_readFields, options_readFields, h.options]
  line := by rw [line_readFields, line_readFields, h.options, h.line, h.unread, readText_add]
  unread := by
    rw [unread_readFields, unread_readFields, h.options, h.line, h.unread, readText_add]

/-- The other reader follows in lockstep, with the same tokens on lines further on. -/
theorem lockstep (lines : Nat) :
    Lockstep id (· + lines) (fun _ ↦ True)
      fun (second : Reader τ) (first : Reader σ) ↦ first.Ahead lines second where
  skipEmpty h := by rw [h.options]
  trim h := by rw [h.options]
  line h := h.line
  tokens h skipEmpty trim _ := by simp [Reading.tokens?, h.fields?_eq skipEmpty]
  readFields h skipEmpty := h.readFields skipEmpty

/-- The same records are taken, on lines further on. -/
theorem takeRecords (h : first.Ahead lines second) (count : Nat) :
    (first.takeRecords count).1 = (second.takeRecords count).1.map (Record.behind lines) := by
  rw [Record.behind_eq_shown]
  exact ((lockstep lines).takeRecords h trivial count).1

/-- The same answer is given, on a line further on, and the distance is kept. -/
theorem serve (h : first.Ahead lines second) (request : ReaderRequest) :
    (first.serve request).answer = (second.serve request).answer.behind lines ∧
      (first.serve request).reader.Ahead lines (second.serve request).reader := by
  rw [Answer.behind_eq_shown]
  cases request with
  | line skipEmpty trim => exact (lockstep lines).serve_line h skipEmpty trivial
  | records count => exact (lockstep lines).serve_records h trivial count
  | setComment comment =>
      refine ⟨rfl, ?_, h.line, h.unread⟩
      simp only [Reader.serve, Reader.setComment, h.options]

/-- A session shows no other difference than that between the counters. -/
theorem answers (h : first.Ahead lines second) (requests : List ReaderRequest) :
    (replies Reader.serve first requests).map Reply.answer =
      (replies Reader.serve second requests).map fun reply ↦ reply.answer.behind lines := by
  induction requests generalizing first second with
  | nil => rfl
  | cons request requests ih =>
      obtain ⟨hanswer, hreader⟩ := h.serve request
      simp only [replies, List.map_cons, hanswer, ih hreader]

end Reader.Ahead

namespace Reader.Agrees

variable {first : Reader σ} {second : Reader τ}

/-- Readers that agree have counted the same lines. -/
theorem ahead (h : first.Agrees second) : first.Ahead 0 second :=
  ⟨h.options, h.line, h.unread⟩

/-- Readers that agree give the same answer to a request and agree afterwards. -/
theorem serve (h : first.Agrees second) (request : ReaderRequest) :
    (first.serve request).Agrees (second.serve request) := by
  obtain ⟨hanswer, hreader⟩ := h.ahead.serve request
  rw [Answer.behind_zero] at hanswer
  exact ⟨hanswer, hreader.options, hreader.line, hreader.unread⟩

/-- Readers that agree on everything but their sources still do when both look at or take the next
character. -/
theorem withSource (h : first.Agrees second) {firstSource : σ} {secondSource : τ}
    (hsource : CharSource.unread firstSource = CharSource.unread secondSource) :
    ({ first with source := firstSource } : Reader σ).Agrees
      ({ second with source := secondSource } : Reader τ) :=
  ⟨h.options, h.line, hsource⟩

/-- Readers that agree give the same answer to a request that may go past them, and agree
afterwards. -/
theorem respond (h : first.Agrees second) (request : Request) :
    (first.respond request).Agrees (second.respond request) := by
  cases request with
  | reader request => exact h.serve request
  | next => exact ⟨by simp [Reader.respond, h.unread], h.withSource (by simp [h.unread])⟩
  | peek => exact ⟨by simp [Reader.respond, h.unread], h.withSource (by simp [h.unread])⟩
  | isAtEnd => exact ⟨by simp [Reader.respond, h.unread], h.withSource (by simp [h.unread])⟩
  | rebind options =>
      cases hfault : options.fault? with
      | some fault => simpa [Reader.respond, Reader.ofOptions, hfault] using ⟨rfl, h⟩
      | none =>
          simpa [Reader.respond, Reader.ofOptions, hfault] using ⟨rfl, rfl, rfl, h.unread⟩

/-- Readers that agree give the same answers to all requests of a session. -/
theorem answers (h : first.Agrees second) (requests : List Request) :
    (replies Reader.respond first requests).map Reply.answer =
      (replies Reader.respond second requests).map Reply.answer := by
  induction requests generalizing first second with
  | nil => rfl
  | cons request requests ih =>
      obtain ⟨hanswer, hreader⟩ := h.respond request
      simp only [replies, List.map_cons, hanswer, ih hreader]

end Reader.Agrees

end Delimited
