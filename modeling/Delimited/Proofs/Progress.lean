import Delimited.Proofs.LineCounter
import Delimited.Proofs.Metering
import Delimited.Source.LineSource

/-!
# Reading gets on and comes to an end

Three measures go down together. The unread text gets shorter with every line that is read, and the
requests that a read makes of the source are paid for by the characters that it takes
(`Reader.requestsToRead_le`). The physical lines that are not yet counted get fewer by at least the
lines that are answered: `Reader.length_lines_serve_le`, and for a run of requests
`Reader.length_lines_replies_le`. A read that finds no line has passed over all that was left
(`readText_passesOver`), and once nothing is left nothing ever will be: `Reader.Ended`.
-/

namespace Delimited

open CharSource (unread)

/-- A read passes over the front of a text, up to the text behind: over comment lines, and over empty
lines if that is asked for. -/
inductive PassesOver (comment : Char) (skipEmpty : Bool) : List Char → List Char → Prop where
  /-- Over nothing. -/
  | nothing (text : List Char) : PassesOver comment skipEmpty text text
  /-- Over a comment line, and on. -/
  | commentLine {rest behind : List Char}
      (hmore : PassesOver comment skipEmpty (afterLine (comment :: rest)) behind) :
      PassesOver comment skipEmpty (comment :: rest) behind
  /-- Over an empty line, and on. -/
  | emptyLine {first : Char} {rest after behind : List Char} (hskip : skipEmpty = true)
      (hcomment : first ≠ comment) (hempty : afterEmptyLine? (first :: rest) = some after)
      (hmore : PassesOver comment skipEmpty after behind) :
      PassesOver comment skipEmpty (first :: rest) behind

/-- A read passes over comment lines, and over empty lines if that is asked for. Then it is at the
end of the text, or at an empty line, which it reports without fields, or at a line with fields. -/
theorem readText_passesOver (dialect : Dialect) (skipEmpty : Bool) (line : Nat)
    (text : List Char) :
    let reading := readText dialect skipEmpty line text
    ∃ behind, PassesOver dialect.comment skipEmpty text behind ∧
      (reading.fields? = none ∧ behind = [] ∨
        reading.fields? = some [] ∧ skipEmpty = false ∧
          afterEmptyLine? behind = some reading.rest ∨
        ∃ fields, reading.fields? = some fields ∧ fields ≠ []) := by
  fun_induction readText dialect skipEmpty line text with
  | case1 => exact ⟨[], .nothing [], Or.inl ⟨rfl, rfl⟩⟩
  | case2 line rest ih =>
      obtain ⟨behind, hpasses, hfound⟩ := ih
      exact ⟨behind, .commentLine hpasses, hfound⟩
  | case3 line first rest hcomment after hempty hskip ih =>
      obtain ⟨behind, hpasses, hfound⟩ := ih
      exact ⟨behind, .emptyLine hskip hcomment hempty hpasses, hfound⟩
  | case4 line first rest hcomment after hempty hkeep =>
      have hskip : skipEmpty = false := by simpa using hkeep
      exact ⟨first :: rest, .nothing _, Or.inr (Or.inl ⟨rfl, hskip, hempty⟩)⟩
  | case5 line first rest hcomment hempty scanned =>
      have hfields := fields_scanText_ne_nil dialect {} (first :: rest)
      exact ⟨first :: rest, .nothing _, Or.inr (Or.inr ⟨_, rfl, hfields⟩)⟩

/-- The lines of a text are those taken off its front and those left. -/
theorem TakesLines.physicalLines_eq {text taken rest : List Char} (h : TakesLines text taken rest) :
    physicalLines text = physicalLines taken + physicalLines rest := by
  have hrest : TakesLines rest rest [] := ⟨(List.append_nil rest).symm, Or.inr (Or.inr rfl)⟩
  rw [h.split, h.physicalLines_trans hrest]

/-- Lines that follow each other are no more than the steps up to the last one. -/
theorem Climbs.length_le {first last : Nat} {lines : List Nat} (h : Climbs first lines last) :
    first + lines.length ≤ last := by
  induction lines generalizing first with
  | nil => exact h.le
  | cons line lines ih =>
      obtain ⟨hbehind, hincreasing⟩ := List.pairwise_cons.mp h.increasing
      have hfirst := h.after line List.mem_cons_self
      have hmore : Climbs line lines last :=
        ⟨hincreasing, hbehind, fun later hlater ↦ h.upTo later (List.mem_cons_of_mem _ hlater),
          h.upTo line List.mem_cons_self⟩
      have hlength := ih hmore
      rw [List.length_cons]
      omega

/-- How many lines a request asks for. -/
def ReaderRequest.linesAsked : ReaderRequest → Nat
  | .line _ _ => 1
  | .records count => count
  | .setComment _ => 0

/-- How many lines a run of requests asks for. -/
def linesAsked : List ReaderRequest → Nat
  | [] => 0
  | request :: requests => request.linesAsked + linesAsked requests

variable {σ : Type} [CharSource σ]

namespace Reader

/-- The reader that requests leave, which may have gone past the reader. -/
def afterResponding (reader : Reader σ) (requests : List Request) : Reader σ :=
  requests.foldl (fun reader request ↦ (reader.respond request).reader) reader

section Lines

variable {reader : Reader σ}

/-- Reads and changes of the comment character keep the delimiter. -/
theorem delimiter_invariant :
    ReaderInvariant fun reader : Reader σ ↦ reader.options.delimiter ≠ '\n' where
  readFields reader skipEmpty h := by rwa [options_readFields]
  setComment _ _ h := h

/-- The newline is no delimiter after any request, whatever reader is bound. -/
theorem delimiter_respond (h : reader.options.delimiter ≠ '\n') (request : Request) :
    (reader.respond request).reader.options.delimiter ≠ '\n' := by
  cases request with
  | reader request => exact delimiter_invariant.serve h request
  | next => exact h
  | peek => exact h
  | isAtEnd => exact h
  | rebind options =>
      unfold respond
      dsimp only
      split
      · exact h
      · rename_i bound hbound
        obtain ⟨rfl, hvalid⟩ := ofOptions_eq_ok_iff.mp hbound
        exact (CountsLines.fresh rfl hvalid).delimiter

/-- The newline is no delimiter after any requests. -/
theorem delimiter_afterResponding (h : reader.options.delimiter ≠ '\n')
    (requests : List Request) :
    (reader.afterResponding requests).options.delimiter ≠ '\n' := by
  induction requests generalizing reader with
  | nil => exact h
  | cons request requests ih => exact ih (delimiter_respond h request)

/-- The lines that are counted and those that are left make the same number throughout. -/
theorem totalLines_invariant (total : Nat) :
    ReaderInvariant fun reader : Reader σ ↦
      reader.options.delimiter ≠ '\n' ∧
        reader.line + physicalLines (unread reader.source) = total where
  readFields reader skipEmpty h := by
    obtain ⟨hdelimiter, htotal⟩ := h
    have hdialect : reader.options.dialect.delimiter ≠ '\n' := hdelimiter
    obtain ⟨taken, htakes, hcount⟩ :=
      readText_takesLines hdialect skipEmpty reader.line (unread reader.source)
    refine ⟨by rwa [options_readFields], ?_⟩
    rw [line_readFields, unread_readFields, hcount, ← htotal, htakes.physicalLines_eq]
    omega
  setComment _ _ h := h

/-- The lines of an answer are no longer among those that are left. -/
theorem length_lines_serve_le (h : reader.options.delimiter ≠ '\n') (request : ReaderRequest) :
    (reader.serve request).answer.lines.length +
        physicalLines (unread (reader.serve request).reader.source) ≤
      physicalLines (unread reader.source) := by
  have hclimbs := (reader.climbs_serve request).length_le
  obtain ⟨_, htotal⟩ := (totalLines_invariant _).serve ⟨h, rfl⟩ request
  omega

/-- The lines of the answers of a session are among those that were left. -/
theorem length_lines_replies_le (h : reader.options.delimiter ≠ '\n')
    (requests : List ReaderRequest) :
    ((replies serve reader requests).flatMap (·.answer.lines)).length ≤
      physicalLines (unread reader.source) := by
  induction requests generalizing reader with
  | nil => exact Nat.zero_le _
  | cons request requests ih =>
      have hanswer := length_lines_serve_le h request
      have hothers := ih (delimiter_invariant.serve h request)
      simp only [replies, List.flatMap_cons, List.length_append]
      omega

/-- An answer that does not show the end has all lines that were asked for. -/
theorem linesAsked_le_serve {request : ReaderRequest}
    (h : ¬ request.MetEnd (reader.serve request).answer) :
    request.linesAsked ≤ (reader.serve request).answer.lines.length := by
  cases request with
  | line skipEmpty trim =>
      have hline : (reader.readFields skipEmpty).status = .line := by
        cases hstatus : (reader.readFields skipEmpty).status with
        | line => rfl
        | endOfStream => exact absurd hstatus h
      simp [serve, Answer.lines, hline, ReaderRequest.linesAsked]
  | records count =>
      obtain ⟨hanswer, _⟩ := reader.serve_records count
      rw [hanswer] at h ⊢
      simpa [Answer.lines, ReaderRequest.linesAsked, ReaderRequest.MetEnd] using h
  | setComment comment => exact Nat.zero_le _

/-- If no answer of a session shows the end, all lines that were asked for are answered. -/
theorem linesAsked_le_replies {requests : List ReaderRequest}
    (h : ∀ pair ∈ requests.zip (replies serve reader requests), ¬ pair.1.MetEnd pair.2.answer) :
    linesAsked requests ≤ ((replies serve reader requests).flatMap (·.answer.lines)).length := by
  induction requests generalizing reader with
  | nil => exact Nat.zero_le _
  | cons request requests ih =>
      have hgoesOn : ¬ request.MetEnd (reader.serve request).answer := h _ List.mem_cons_self
      have hfirst := linesAsked_le_serve hgoesOn
      have hothers := ih fun pair hpair ↦ h pair (List.mem_cons_of_mem _ hpair)
      simp only [replies, List.flatMap_cons, List.length_append, linesAsked]
      omega

end Lines

/-- What a read does. It makes a bounded number of requests and takes whole lines. If it gives a
line, it has taken some character and raised the counter, and a line without tokens is an empty one.
If it gives none, it has passed over all that was left. -/
structure Progresses (reader : Reader σ) (skipEmpty : Bool) (reply : Reply σ) : Prop where
  takes : ∃ taken, TakesLines (unread reader.source) taken (unread reply.reader.source) ∧
    reader.requestsToRead skipEmpty ≤ 3 * taken.length + 2
  line : ∀ tokens last, reply.answer = .line .line tokens last →
    (unread reply.reader.source).length < (unread reader.source).length ∧ reader.line < last ∧
      (tokens = [] → skipEmpty = false ∧ ∃ behind,
        PassesOver reader.options.comment false (unread reader.source) behind ∧
          afterEmptyLine? behind = some (unread reply.reader.source))
  endOfStream : ∀ tokens last, reply.answer = .line .endOfStream tokens last →
    PassesOver reader.options.comment skipEmpty (unread reader.source) [] ∧
      unread reply.reader.source = []

/-- Every read progresses. -/
theorem progresses {reader : Reader σ} (h : reader.options.delimiter ≠ '\n')
    (skipEmpty trim : Bool) :
    reader.Progresses skipEmpty (reader.serve (.line skipEmpty trim)) := by
  have hdialect : reader.options.dialect.delimiter ≠ '\n' := h
  -- a read over a source is a read of its text
  have hfields := reader.fields?_readFields skipEmpty
  have hline := reader.line_readFields skipEmpty
  have hunread := reader.unread_readFields skipEmpty
  obtain ⟨behind, hpasses, hfound⟩ :=
    readText_passesOver reader.options.dialect skipEmpty reader.line (unread reader.source)
  rw [← hfields, ← hunread] at hfound
  constructor
  case takes =>
    obtain ⟨taken, htakes, _⟩ :=
      readText_takesLines hdialect skipEmpty reader.line (unread reader.source)
    rw [← hunread] at htakes
    refine ⟨taken, htakes, ?_⟩
    have hrequests := reader.requestsToRead_le skipEmpty
    have hlength := congrArg List.length htakes.split
    rw [List.length_append] at hlength
    omega
  case line =>
    intro tokens last hanswer
    simp only [serve, Answer.line.injEq] at hanswer
    obtain ⟨hstatus, rfl, rfl⟩ := hanswer
    have hsome : (reader.readFields skipEmpty).fields?.isSome := by
      rw [Option.isSome_iff_ne_none]
      simpa [Reading.status] using hstatus
    refine ⟨length_unread_readFields_lt reader skipEmpty #[] hsome, ?_, fun htokens ↦ ?_⟩
    · rw [hfields] at hsome
      rw [hline]
      exact lt_line_readText hsome
    · rcases hfound with ⟨hnone, _⟩ | ⟨_, hskip, hempty⟩ | ⟨fields, hfound, hne⟩
      · simp [hnone] at hsome
      · exact ⟨hskip, behind, hskip ▸ hpasses, hempty⟩
      · simp [Reading.tokens, hfound, hne] at htokens
  case endOfStream =>
    intro tokens last hanswer
    simp only [serve, Answer.line.injEq] at hanswer
    have hnone : (reader.readFields skipEmpty).fields? = none := by
      simpa [Reading.status] using hanswer.1
    refine ⟨?_, unread_eq_nil_of_readFields hnone⟩
    rcases hfound with ⟨_, rfl⟩ | ⟨hfound, _⟩ | ⟨fields, hfound, _⟩
    · exact hpasses
    · simp [hnone] at hfound
    · simp [hnone] at hfound

/-- Nothing is left for the reader, and every read tells so and leaves the counter as it is. -/
structure Ended (reader : Reader σ) : Prop where
  unread_eq : unread reader.source = []
  line : ∀ skipEmpty trim,
    (reader.serve (.line skipEmpty trim)).answer = .line .endOfStream [] reader.line
  records : ∀ count, (reader.serve (.records count)).answer = .records [] reader.line

/-- Where nothing is left no read finds a line. -/
theorem ended_of_unread_eq_nil {reader : Reader σ} (h : unread reader.source = []) :
    reader.Ended := by
  have hread : ∀ skipEmpty, (reader.readFields skipEmpty).fields? = none ∧
      (reader.readFields skipEmpty).reader.line = reader.line := by
    intro skipEmpty
    rw [fields?_readFields, line_readFields, h, readText_nil]
    exact ⟨rfl, rfl⟩
  refine ⟨h, fun skipEmpty trim ↦ ?_, fun count ↦ ?_⟩
  · obtain ⟨hnone, hline⟩ := hread skipEmpty
    simp [serve, Reading.status, Reading.tokens, hnone, hline]
  · obtain ⟨hanswer, _⟩ := reader.serve_records count
    rw [hanswer]
    cases count with
    | zero => rfl
    | succ count =>
        obtain ⟨hnone, hline⟩ := hread reader.options.skipEmpty
        have hrecord : reader.nextRecord.1 = none := Option.map_eq_none_iff.mpr hnone
        rw [takeRecords_of_none hrecord]
        exact congrArg (Answer.records []) hline

/-- No request for a character changes that nothing is left. -/
theorem nothingLeft_invariant : SourceInvariant fun source : σ ↦ unread source = [] where
  next source h := by rw [CharSource.unread_next, h, List.tail_nil]
  peek source h := by rwa [CharSource.unread_peek]

/-- Where nothing is left, nothing is left after any requests. -/
theorem Ended.afterResponding {reader : Reader σ} (h : reader.Ended) (requests : List Request) :
    (reader.afterResponding requests).Ended := by
  induction requests generalizing reader with
  | nil => exact h
  | cons request requests ih =>
      exact ih (ended_of_unread_eq_nil (nothingLeft_invariant.respond h.unread_eq request))

end Reader

/-- Reading gets on and comes to an end for good. Stand behind any requests to a reader that was
bound with valid options, and to the source below it. Every read makes a bounded number of requests;
a read that gives a line takes a character at least, raises the counter, and gives tokens unless the
line is empty; a read that gives none has passed over all that was left. The lines that a run of
reads answers are no more than the physical lines that were left, and if more of them are asked for,
some answer shows the end. Behind an answer that shows the end there is nothing but the end, whatever
is asked next: whatever the flags and the comment character are, and for a new reader of the source as
well, each read is answered without tokens and leaves the counter as it is. -/
theorem reading_progresses_and_ends {source : σ} {options : Options} {bound : Reader σ}
    (hbind : Reader.ofOptions source options = .ok bound) (before : List Request) :
    let reader := bound.afterResponding before
    (∀ skipEmpty trim, reader.Progresses skipEmpty (reader.serve (.line skipEmpty trim))) ∧
    (∀ requests : List ReaderRequest,
      let given := replies Reader.serve reader requests
      let left := physicalLines (unread reader.source)
      (given.flatMap (·.answer.lines)).length ≤ left ∧
      (left < linesAsked requests →
        ∃ pair ∈ requests.zip given, pair.1.MetEnd pair.2.answer)) ∧
    ∀ request : ReaderRequest, request.MetEnd (reader.serve request).answer →
      ∀ later : List Request, ((reader.serve request).reader.afterResponding later).Ended := by
  obtain ⟨rfl, hvalid⟩ := Reader.ofOptions_eq_ok_iff.mp hbind
  intro reader
  have hdelimiter : reader.options.delimiter ≠ '\n' :=
    Reader.delimiter_afterResponding (Reader.CountsLines.fresh rfl hvalid).delimiter before
  refine ⟨Reader.progresses hdelimiter, fun requests ↦ ?_, fun request hend later ↦ ?_⟩
  · have hle := Reader.length_lines_replies_le hdelimiter requests
    refine ⟨hle, fun hmore ↦ Classical.byContradiction fun hgoesOn ↦ ?_⟩
    have hasked := Reader.linesAsked_le_replies fun pair hpair hend ↦ hgoesOn ⟨pair, hpair, hend⟩
    omega
  · have hnothing := Reader.unread_eq_nil_of_metEnd hend
    exact (Reader.ended_of_unread_eq_nil hnothing).afterResponding later

/-- A stream that pauses and would then give another line. The reads that follow the end are made
with a comment character that is the delimiter, and by a new reader. -/
theorem reading_ends_at_pause :
    let events : List StreamEvent :=
      [.data [0x61, 0x0A, 0x23, 0x78, 0x0A], .pause, .data [0x62, 0x0A]]
    let source : LineSource := { stream := { capacity := 4, pending := events } }
    let before : List Request := [.reader (.line true false), .peek]
    let reader := ({ source } : Reader LineSource).afterResponding before
    let ended := (reader.serve (.line false true)).reader
    let later : List Request :=
      [.reader (.setComment ','), .reader (.line false false), .next, .rebind { delimiter := ';' }]
    Reader.ofOptions source {} = .ok { source } ∧
      (reader.serve (.line false true)).answer = .line .endOfStream [] 2 ∧
      ((ended.afterResponding (later.take 1)).serve (.line true true)).answer =
        .line .endOfStream [] 2 ∧
      ((ended.afterResponding later).serve (.records 3)).answer = .records [] 0 := by
  intro events source before reader ended later
  have hbind : Reader.ofOptions source {} = .ok { source } := rfl
  have hanswer : (reader.serve (.line false true)).answer = .line .endOfStream [] 2 := by
    decide +kernel
  have hend : ReaderRequest.MetEnd (.line false true) (reader.serve (.line false true)).answer := by
    rw [hanswer]
    rfl
  obtain ⟨_, _, hended⟩ := reading_progresses_and_ends hbind before
  refine ⟨hbind, hanswer, ?_, ?_⟩
  · exact ((hended _ hend (later.take 1)).line true true).trans (by decide +kernel)
  · exact ((hended _ hend later).records 3).trans (by decide +kernel)

end Delimited
