import Delimited.Proofs.LineEnding
import Delimited.Proofs.StreamFailure

/-!
# The line in hand

A source of lines cuts the line in hand at its cursor, a position counted in bytes, at every request
for a character. Cutting is possible only between two characters of the line. `Traced` follows the
line in hand from one refill to the next, and `Traced.Sound` is what each call keeps: the characters
handed out since the refill and the rest of the line make up the line as it was read, and the cursor
stands between the two. `line_in_hand_sliceable` draws the conclusions, for every state in which a
source can be found, within a read or between two of them.
-/

namespace Delimited

/-- The text of a line that was read. The end of a stream and a failure give none. -/
def LineRead.text : LineRead → String
  | .line text => text
  | .ended => ""
  | .failed _ => ""

/-- What reading a segment appends to a line: its bytes if they are UTF-8, also those in front of a
failure. -/
def Segment.appended (segment : Segment) : String :=
  (String.fromUTF8? segment.bytes.toByteArray).getD ""

namespace LineSource

/-- Read the next segment into the line in hand, which is emptied before. Where the segment failed,
the line is emptied again of what came in front of the failure. -/
def refill (source : LineSource) : LineSource × Option StreamError :=
  let read := source.stream.readSegment
  let appended := { source with stream := read.2, line := read.1.appended, cursor := 0 }
  match read.1.decode with
  | .line _ => (appended, none)
  | .ended => ({ appended with finished := true }, none)
  | .failed error =>
      ({ appended with line := "", finished := true, error := some error }, some error)

/-- Nothing is left in hand, and the stream may still be read. -/
def needsLine (source : LineSource) : Bool :=
  source.held.isEmpty && !source.finished

/-- What can be asked of a source of lines. Asking whether it is at its end is looking ahead. -/
inductive Call where
  /-- Take the next character. -/
  | next
  /-- Look at the next character. -/
  | peek
  /-- Take the failure that finished the source. -/
  | takeError
  deriving DecidableEq, Repr

end LineSource

/-- A source of lines and what has become of its line in hand. -/
structure Traced where
  source : LineSource
  /-- The line that was read last. -/
  read : String := ""
  /-- The characters handed out since. -/
  handed : List Char := []

namespace Traced

/-- Make sure that there is a character at the cursor, unless the stream is over. -/
def fill (traced : Traced) : Traced :=
  let source := traced.source.fill.1
  if traced.source.needsLine then { source, read := traced.source.stream.readLine.1.text }
  else { traced with source }

/-- Answer a call. -/
def serve (traced : Traced) : LineSource.Call → Traced
  | .next =>
      let pull := CharSource.next traced.source
      let filled := traced.fill
      { filled with source := pull.source, handed := filled.handed ++ pull.char.toList }
  | .peek => { traced.fill with source := (CharSource.peek traced.source).source }
  | .takeError => { traced with source := traced.source.takeError.2 }

/-- Answer calls one after the other. -/
def after (traced : Traced) (calls : List LineSource.Call) : Traced :=
  calls.foldl serve traced

/-- The cursor stands between the characters handed out since the last refill and those in hand,
which together are the line as it was read; only its last character can be a newline. -/
structure Sound (traced : Traced) : Prop where
  line : traced.source.line = traced.read
  cursor : traced.source.cursor = (String.ofList traced.handed).rawEndPos
  handed : traced.handed ++ traced.source.held = traced.read.toList
  newline : '\n' ∉ traced.read.toList.dropLast
  error : traced.source.error.isSome → traced.source.finished = true

end Traced

/-- At the end of a stream nothing is appended to a line. -/
theorem Segment.appended_of_ended {segment : Segment} (h : segment.decode = .ended) :
    segment.appended = "" := by
  have hbytes : segment.bytes = [] := by
    unfold decode at h
    split at h
    · simp at h
    · split at h
      · rename_i hempty
        exact List.isEmpty_iff.mp hempty
      · split at h <;> simp at h
  rw [appended, hbytes]
  rfl

/-- A line that is read is appended. -/
theorem Segment.appended_of_line {segment : Segment} {text : String}
    (h : segment.decode = .line text) : segment.appended = text := by
  have htext := decode_eq_line_iff.mp h
  unfold text? at htext
  split at htext
  · simp at htext
  · rw [appended, htext, Option.getD_some]

namespace LineSource

variable {source : LineSource}

/-- Reading into the line in hand gives what is fetched. -/
theorem refill_eq_fetch (source : LineSource) : source.refill = source.fetch := by
  unfold refill fetch ByteStream.readLine
  dsimp only
  cases hread : source.stream.readSegment.1.decode with
  | line text =>
      rw [Segment.appended_of_line hread]
      rfl
  | ended =>
      rw [Segment.appended_of_ended hread]
      rfl
  | failed error => rfl

/-- A line is fetched where one is needed, and nothing is done elsewhere. -/
theorem fill_eq (source : LineSource) :
    source.fill = if source.needsLine then source.fetch else (source, none) := by
  unfold fill needsLine
  rw [get?_cursor]
  cases source.held <;> cases source.finished <;> rfl

/-- A line is needed where nothing is in hand and the source is not finished. -/
theorem needsLine_iff : source.needsLine = true ↔ source.held = [] ∧ source.finished = false := by
  simp [needsLine]

end LineSource

namespace Traced

variable {traced : Traced}

/-- Nothing was read into the line of a fresh source. -/
theorem sound_fresh (stream : ByteStream) : ({ source := { stream } } : Traced).Sound :=
  ⟨rfl, rfl, rfl, by simp, by simp⟩

/-- The source behind a refill is the one that was filled. -/
@[simp] theorem source_fill (traced : Traced) : traced.fill.source = traced.source.fill.1 := by
  unfold fill
  split <;> rfl

namespace Sound

/-- The line in hand, cut at the cursor. -/
theorem line_eq (h : traced.Sound) :
    traced.source.line = String.ofList traced.handed ++ String.ofList traced.source.held := by
  rw [← String.ofList_append, h.handed, String.ofList_toList, h.line]

/-- The line in hand can be cut at the cursor. -/
theorem isValid_cursor (h : traced.Sound) : traced.source.cursor.IsValid traced.source.line :=
  String.Pos.Raw.isValid_iff_exists_append.mpr ⟨_, _, h.line_eq, h.cursor⟩

/-- Something is left in hand exactly if the cursor has not reached the end of the line. -/
theorem cursor_lt_iff (h : traced.Sound) :
    traced.source.cursor < traced.source.line.rawEndPos ↔ traced.source.held ≠ [] := by
  rw [h.cursor, h.line_eq, String.Pos.Raw.lt_iff, String.byteIdx_rawEndPos,
    String.byteIdx_rawEndPos, String.utf8ByteSize_append, Nat.lt_add_right_iff_pos,
    Nat.pos_iff_ne_zero, Ne, String.utf8ByteSize_eq_zero_iff, String.ofList_eq_empty_iff]

/-- Filling keeps the line in hand sound. -/
theorem fill (h : traced.Sound) : traced.fill.Sound := by
  unfold Traced.fill
  rw [LineSource.fill_eq]
  split
  · rename_i hneeds
    obtain ⟨hheld, hopen⟩ := LineSource.needsLine_iff.mp hneeds
    have hnone : traced.source.error = none := by simpa [hopen] using h.error
    simp only [LineSource.fetch]
    cases hread : traced.source.stream.readLine.1 with
    | line text =>
        have hnewline := ByteStream.newline_notMem_text (Segment.decode_eq_line_iff.mp hread)
        simp only [LineSource.hold]
        refine ⟨rfl, rfl, ?_, hnewline, by simp [hnone]⟩
        simp [LineSource.held, LineRead.text]
    | ended => exact ⟨rfl, rfl, rfl, by simp [LineRead.text], fun _ ↦ rfl⟩
    | failed error => exact ⟨rfl, rfl, rfl, by simp [LineRead.text], fun _ ↦ rfl⟩
  · exact ⟨h.line, h.cursor, h.handed, h.newline, h.error⟩

/-- Taking a character moves the cursor over it. -/
theorem next (h : traced.Sound) : (traced.serve .next).Sound := by
  have hfilled := h.fill
  have hsource := traced.source_fill
  show Sound { traced.fill with
    source := traced.source.next.source
    handed := traced.fill.handed ++ traced.source.next.char.toList }
  cases hheld : traced.source.fill.1.held with
  | nil =>
      rw [LineSource.next_of_nil hheld, ← hsource, Option.toList_none, List.append_nil]
      exact hfilled
  | cons char rest =>
      have hrest : { traced.source.fill.1 with
          cursor := traced.source.fill.1.cursor + char }.held = rest := charsFrom_advance hheld
      have hcursor := hfilled.cursor
      have hhanded := hfilled.handed
      rw [hsource] at hcursor hhanded
      rw [hheld] at hhanded
      rw [LineSource.next_of_cons hheld]
      refine ⟨hsource ▸ hfilled.line, ?_, ?_, hfilled.newline, hsource ▸ hfilled.error⟩
      · simp [hcursor, String.ofList_append]
      · simpa [hrest] using hhanded

/-- Every call keeps the line in hand sound. -/
theorem serve (h : traced.Sound) (call : LineSource.Call) : (traced.serve call).Sound := by
  cases call with
  | next => exact h.next
  | peek =>
      have hfilled := h.fill
      have hsource := traced.source_fill
      show Sound { traced.fill with source := traced.source.fill.1 }
      rwa [← hsource]
  | takeError =>
      have hnone : (traced.serve .takeError).source.error = none := rfl
      exact ⟨h.line, h.cursor, h.handed, h.newline, by simp [hnone]⟩

/-- All calls keep the line in hand sound. -/
theorem after (h : traced.Sound) (calls : List LineSource.Call) : (traced.after calls).Sound := by
  induction calls generalizing traced with
  | nil => exact h
  | cons call calls ih => exact ih (h.serve call)

/-- A line is read where the cursor has reached the end of the line in hand and the source is not
finished. -/
theorem fill_eq_refill (h : traced.Sound) :
    traced.source.fill =
      if traced.source.cursor < traced.source.line.rawEndPos ∨ traced.source.finished = true then
        (traced.source, none)
      else traced.source.refill := by
  have hcursor := h.cursor_lt_iff
  rw [LineSource.fill_eq, LineSource.refill_eq_fetch]
  by_cases hneeds : traced.source.needsLine = true
  · obtain ⟨hheld, hopen⟩ := LineSource.needsLine_iff.mp hneeds
    rw [if_pos hneeds, if_neg (by simp [hcursor, hheld, hopen])]
  · have hstays : traced.source.held ≠ [] ∨ traced.source.finished = true := by
      simpa [LineSource.needsLine_iff, or_iff_not_imp_left] using hneeds
    rw [if_neg hneeds, if_pos (by rwa [hcursor])]

end Sound

/-- A source that is filled has a character in hand or is finished. -/
theorem held_fill (traced : Traced) :
    traced.fill.source.held ≠ [] ∨
      traced.fill.source.finished = true ∧ traced.fill.source.held = [] := by
  rw [source_fill]
  by_cases hheld : traced.source.fill.1.held = []
  · exact .inr ⟨LineSource.finished_fill hheld, hheld⟩
  · exact .inl hheld

/-- A failure that is met by a refill leaves nothing in hand of what came in front of it. -/
theorem fill_of_failure {error : StreamError} (h : traced.source.fill.2 = some error) :
    traced.fill.source.line = "" ∧ traced.fill.source.cursor = 0 ∧
      traced.fill.source.finished = true ∧ traced.fill.source.error = some error := by
  rw [source_fill]
  rw [LineSource.fill_eq] at h ⊢
  split at h
  · rename_i hneeds
    rw [if_pos hneeds]
    simp only [LineSource.fetch] at h ⊢
    cases hread : traced.source.stream.readLine.1 with
    | line text => simp [hread, LineSource.hold] at h
    | ended => simp [hread, LineSource.hold] at h
    | failed other =>
        rw [hread] at h
        exact ⟨rfl, rfl, rfl, h⟩
  · simp at h

/-- A call behind other calls. -/
theorem after_concat (traced : Traced) (calls : List LineSource.Call) (call : LineSource.Call) :
    traced.after (calls ++ [call]) = (traced.after calls).serve call := by
  rw [after, List.foldl_append]
  rfl

/-- Whatever a reader and its source are asked for, the source is left as calls leave it. -/
theorem calls_streamLedger (start : Traced) :
    StreamLedger fun _ _ source ↦ ∃ calls, source = (start.after calls).source where
  source _ := by
    constructor
    · rintro _ _ ⟨calls, rfl⟩
      exact ⟨calls ++ [.next], by rw [after_concat]; rfl⟩
    · rintro _ _ ⟨calls, rfl⟩
      exact ⟨calls ++ [.peek], by rw [after_concat]; rfl⟩
  takeError := by
    rintro _ _ _ ⟨calls, rfl⟩
    exact ⟨calls ++ [.takeError], by rw [after_concat]; rfl⟩

end Traced

/-- Stand behind any calls to a source of the lines of a stream; whatever a reader and the source
are asked for, that is where the source is found. The cursor stands within the line in hand, between
two of its characters, so the line can be cut there; a newline is its last character; a failure is
kept only if the source is finished; and the characters handed out since the last refill, followed
by those behind the cursor, are the line as it was read. The source is filled by reading a line into
it, but only if the cursor has reached the end of the line in hand and the source is not finished.
Then the line can be cut at the cursor again, and either a character is in hand or the source is
finished. A failure empties the line of all that was read in front of it. -/
theorem line_in_hand_sliceable (stream : ByteStream) (options : Options) :
    let start : Traced := { source := { stream } }
    let reader : Reader LineSource := { source := { stream }, options }
    (∀ requests : List StreamRequest, ∃ calls,
      (reader.afterAttending requests).source = (start.after calls).source) ∧
    ∀ calls : List LineSource.Call,
      let traced := start.after calls
      let source := traced.source
      let filled := source.fill.1
      (source.cursor ≤ source.line.rawEndPos ∧ source.cursor.IsValid source.line) ∧
      '\n' ∉ source.line.toList.dropLast ∧
      (source.error.isSome → source.finished = true) ∧
      (source.line = traced.read ∧ traced.handed ++ source.held = source.line.toList) ∧
      source.fill =
        (if source.cursor < source.line.rawEndPos ∨ source.finished = true then (source, none)
          else source.refill) ∧
      (filled.cursor ≤ filled.line.rawEndPos ∧ filled.cursor.IsValid filled.line) ∧
      (filled.held ≠ [] ∨ filled.finished = true ∧ filled.held = []) ∧
      ∀ error, source.fill.2 = some error →
        filled.line = "" ∧ filled.cursor = 0 ∧ filled.finished = true ∧
          filled.error = some error := by
  intro start reader
  refine ⟨fun requests ↦ ?_, fun calls ↦ ?_⟩
  · exact start.calls_streamLedger.attended [] [] ⟨[], rfl⟩ requests
  · intro traced source filled
    have hsound : traced.Sound := (Traced.sound_fresh stream).after calls
    have hvalid := hsound.isValid_cursor
    have hfilled := hsound.fill.isValid_cursor
    rw [Traced.source_fill] at hfilled
    refine ⟨⟨hvalid.le_rawEndPos, hvalid⟩, ?_, hsound.error, ⟨hsound.line, ?_⟩, ?_,
      ⟨hfilled.le_rawEndPos, hfilled⟩, ?_, ?_⟩
    · rw [hsound.line]
      exact hsound.newline
    · rw [hsound.line]
      exact hsound.handed
    · exact hsound.fill_eq_refill
    · simpa using traced.held_fill
    · intro error herror
      simpa using Traced.fill_of_failure herror

/-- A device fails behind two characters of a line, the first of them cut in two by a chunk. The
line had held both, and holds nothing once the failure is met. -/
theorem line_in_hand_sliceable_behind_partial_line :
    let stream : ByteStream :=
      { capacity := 2
        pending := [.data [0xC3, 0xA9, 0x0A, 0xC3], .data [0xA9, 0x62], .failure "gone",
          .data [0x78, 0x0A]] }
    let start : Traced := { source := { stream } }
    let source := (start.after [.next, .next]).source
    let behind := (start.after [.next, .next, .peek]).source
    source.stream.readSegment.1.appended = "éb" ∧
      source.fill.2 = some (.device "gone") ∧
      (source.fill.1.line = "" ∧ source.fill.1.cursor = 0 ∧ source.fill.1.finished = true ∧
        source.fill.1.error = some (.device "gone")) ∧
      behind.error.isSome ∧ behind.finished = true ∧ behind.cursor.IsValid behind.line := by
  intro stream
  obtain ⟨_, hcalls⟩ := line_in_hand_sliceable stream {}
  dsimp only at hcalls ⊢
  obtain ⟨_, _, _, _, _, _, _, hfilled⟩ := hcalls [.next, .next]
  obtain ⟨⟨_, hvalid⟩, _, hfinished, _⟩ := hcalls [.next, .next, .peek]
  refine ⟨?_, ?_, hfilled _ ?_, ?_, hfinished ?_, hvalid⟩
  all_goals decide +kernel

end Delimited
