import Delimited.Proofs.LineEnding

/-!
# Streams that are lent to a reader

A reader takes its stream line by line, and between reads no line is in hand. So the bytes taken out
of the stream are those of the characters that were consumed and, once the segment without a text
was met, the bytes of that segment: `lent_stream_exact`, which also says which reads meet it and how
many reads taking records makes.
-/

namespace Delimited

open CharSource (unread)

namespace LineSource

/-- Where the characters of a text and the bytes of its stream are, when the stream holds this
segment where the text stops. The cursor has passed what stands before it in its line; the bytes
that are not in the stream any more are those of the characters consumed, those in hand and, once
the source is finished, those of the segment. -/
structure Spends (stop : Segment) (text : List Char) (bytes : List UInt8) (source : LineSource) :
    Prop where
  cursor : ∃ passed, source.line.toList = passed ++ source.held ∧
    source.cursor.byteIdx = (utf8 passed).length
  bytes : ∃ consumed, consumed ++ source.unread = text ∧
    bytes = utf8 (consumed ++ source.held) ++ (if source.finished then stop.bytes else []) ++
      source.stream.bytes

/-- What is spent stays so at each step. -/
theorem Spends.step {stop : Segment} {text : List Char} {bytes : List UInt8}
    {taken met : List StreamError} {source after : LineSource} {failure : Option StreamError}
    (hstep : source.Step failure after) (haccounts : source.Accounts stop taken met)
    (h : source.Spends stop text bytes) : after.Spends stop text bytes := by
  obtain ⟨consumed, htext, hbytes⟩ := h.bytes
  cases hstep with
  | @line line hheld hopen hline =>
      -- the bytes of the line move from the stream into the hand
      have hread := source.stream.bytes_readSegment
      have hunread := ByteStream.text_of_line (Segment.decode_eq_line_iff.mpr hline)
      rw [Segment.bytes_eq_utf8 hline] at hread
      refine ⟨⟨[], by simp [held], rfl⟩, consumed, ?_, ?_⟩
      · rw [← htext, unread, unread, hheld, hopen, hunread]
        simp [held, ByteStream.readLine]
      · rw [hbytes, hheld, hopen, ← hread]
        simp [held]
  | stop hheld hopen hnone herror =>
      have hread := source.stream.bytes_readSegment
      have hstop := ByteStream.readSegment_eq_stop haccounts.capacity hnone
      rw [hstop, haccounts.stop_of_open hopen] at hread
      refine ⟨⟨[], by simp [held], rfl⟩, consumed, ?_, ?_⟩
      · rw [← htext, unread, unread, hheld, hopen, ByteStream.text_eq_nil hnone]
        simp [held]
      · rw [hbytes, hheld, hopen, ← hread]
        simp [held]
  | @advance char rest hheld =>
      -- one character moves from the hand to those consumed
      have hrest : { source with cursor := source.cursor + char }.held = rest :=
        charsFrom_advance hheld
      obtain ⟨passed, hline, hcursor⟩ := h.cursor
      refine ⟨⟨passed ++ [char], ?_, ?_⟩, consumed ++ [char], ?_, ?_⟩
      · rw [hrest, List.append_assoc, List.singleton_append, ← hheld]
        exact hline
      · rw [String.Pos.Raw.byteIdx_add_char, hcursor, utf8_append, List.length_append,
          length_utf8_singleton]
      · rw [← htext, unread, unread, hrest, hheld]
        simp
      · rw [hbytes, hrest, hheld]
        simp

/-- What is spent of a stream from which nothing was read. -/
theorem spends_ofEvents {capacity : Nat} (hcapacity : 0 < capacity) (events : List StreamEvent) :
    (ofEvents capacity events).Spends (firstUndelivered events) (deliveredText events).toList
      (events.flatMap StreamEvent.bytes) where
  cursor := ⟨[], rfl, rfl⟩
  bytes := ⟨[], unread_ofEvents hcapacity events, rfl⟩

/-- The books of a source from which no failure was taken: what was met and what was spent. -/
def Keeps (events : List StreamEvent) (source : LineSource) : Prop :=
  ∃ met, source.Accounts (firstUndelivered events) [] met ∧
    source.Spends (firstUndelivered events) (deliveredText events).toList
      (events.flatMap StreamEvent.bytes)

/-- Requests for characters keep the books. -/
theorem keeps_invariant (events : List StreamEvent) : SourceInvariant (Keeps events) := by
  refine invariant_of_step ?_
  rintro source failure after hstep ⟨met, haccounts, hspends⟩
  exact ⟨_, haccounts.step hstep, hspends.step hstep haccounts⟩

end LineSource

namespace Reader

/-- Between the requests of a session nothing is in hand. -/
theorem rests_invariant :
    ReaderInvariant fun reader : Reader LineSource ↦ reader.source.held = [] where
  readFields _ skipEmpty h :=
    (rests_readFields (LineSource.tidy_of_held h) skipEmpty #[]).held
  setComment _ _ h := h

/-- Taking records makes a read for each record and, where fewer are left than are asked for, one
that finds the end. -/
theorem takeRecords_eq_after {σ : Type} [CharSource σ] (reader : Reader σ) (count : Nat) :
    let reads := min count ((reader.takeRecords count).1.length + 1)
    (reader.takeRecords count).2 =
      reader.after (.replicate reads (.line reader.options.skipEmpty reader.options.trim)) := by
  induction count generalizing reader with
  | zero => simp
  | succ count ih =>
      have hoptions : reader.nextRecord.2.reader.options = reader.options :=
        reader.options_readFields reader.options.skipEmpty #[]
      cases hrecord : reader.nextRecord.1 with
      | none =>
          rw [takeRecords_of_none hrecord]
          have hone : min (count + 1) 1 = 1 := by omega
          simp only [List.length_nil, Nat.zero_add, hone]
          rfl
      | some record =>
          have hothers := ih reader.nextRecord.2.reader
          rw [takeRecords_of_some hrecord]
          simp only [List.length_cons, Nat.add_min_add_right, List.replicate_succ, after_cons]
          rw [hoptions] at hothers
          exact hothers

end Reader

/-- The segment that reading stops at has no text. -/
theorem text?_stopSegment (segments : List Segment) : (stopSegment segments).text? = none := by
  unfold stopSegment
  cases hfound : segments.find? (·.text?.isNone) with
  | none => rfl
  | some segment =>
      have hnone := List.find?_some hfound
      simpa using hnone

/-- The bytes of the segment where reading stops are lost to a failure; without one there are none.
-/
theorem LineSource.Accounts.bytes_eq {stop : Segment} {met : List StreamError} {source : LineSource}
    (h : source.Accounts stop [] met) (htext : stop.text? = none) :
    (if source.finished then stop.bytes else []) =
      if source.error.isSome then stop.bytes else [] := by
  have herror := h.error.trans h.met_eq
  cases hfinished : source.finished with
  | false =>
      have hnone : source.error = none := by simpa [hfinished] using herror
      simp [hnone]
  | true =>
      cases hstop : stop.error? with
      | some error =>
          have hsome : source.error = some error := by simpa [hfinished, hstop] using herror
          simp [hsome]
      | none =>
          have hempty := Segment.bytes_eq_nil htext hstop
          simp [hempty]

/-- Let a session with a reader over the lines of a lent stream make any reads and changes of the
comment character. Behind it the line in hand is consumed to its end, and the bytes that were taken
out of the stream are those of the characters consumed, followed by those of the failing segment if
its failure was met. The next read finishes the source exactly if it does not find a line ended by a
newline outside quotes; as long as the source is not finished, no failure was met and the segment
that has one is still in the stream. Taking records makes as many reads as it gives records, and one
more only if there are fewer than it was asked for. -/
theorem lent_stream_exact {capacity : Nat} (hcapacity : 0 < capacity) (events : List StreamEvent)
    (options : Options) (requests : List ReaderRequest) :
    let stop := firstUndelivered events
    let start : Reader LineSource := { source := .ofEvents capacity events, options }
    let last := start.after requests
    last.source.cursor = last.source.line.rawEndPos ∧
      (∃ consumed : String, consumed.toList ++ unread last.source = (deliveredText events).toList ∧
        events.flatMap StreamEvent.bytes =
          utf8 consumed.toList ++ (if last.source.error.isSome then stop.bytes else []) ++
            last.source.stream.bytes) ∧
      (last.source.finished = false → last.source.error = none ∧ last.source.stream.stop = stop) ∧
      (∀ skipEmpty trim, (last.serve (.line skipEmpty trim)).reader.source.finished =
        !findsEndedLine last.options.dialect skipEmpty (unread last.source)) ∧
      ∀ count : Nat, ∃ (taken : List Record) (line : Nat),
        (last.serve (.records count)).answer = .records taken line ∧
          (last.serve (.records count)).reader =
            last.after (.replicate (min count (taken.length + 1))
              (.line last.options.skipEmpty last.options.trim)) := by
  intro stop start last
  have hkeeps : LineSource.Keeps events last.source :=
    (LineSource.keeps_invariant events).toReader.after
      ⟨[], LineSource.accounts_ofEvents hcapacity events,
        LineSource.spends_ofEvents hcapacity events⟩ requests
  have hheld : last.source.held = [] := Reader.rests_invariant.after rfl requests
  obtain ⟨met, haccounts, hspends⟩ := hkeeps
  refine ⟨?_, ?_, ?_, ?_, ?_⟩
  · obtain ⟨passed, hline, hcursor⟩ := hspends.cursor
    rw [hheld, List.append_nil] at hline
    rw [String.Pos.Raw.ext_iff, hcursor, ← hline, length_utf8_toList]
    rfl
  · obtain ⟨consumed, htext, hbytes⟩ := hspends.bytes
    refine ⟨.ofList consumed, by rwa [String.toList_ofList], ?_⟩
    rw [String.toList_ofList, ← haccounts.bytes_eq (text?_stopSegment _), hbytes, hheld,
      List.append_nil]
  · intro hopen
    have herror := haccounts.error.trans haccounts.met_eq
    rw [hopen] at herror
    exact ⟨by simpa using herror, haccounts.stop_of_open hopen⟩
  · intro skipEmpty trim
    have htidy := LineSource.tidy_of_held hheld
    exact (Reader.rests_readFields htidy skipEmpty #[]).finished
  · intro count
    obtain ⟨hanswer, hreader⟩ := last.serve_records count
    exact ⟨_, _, hanswer, hreader.trans (last.takeRecords_eq_after count)⟩

/-- Behind a record over two physical lines nothing of the line that the device is going to fail in
is taken; the next read takes it and meets the failure. -/
theorem lent_stream_exact_behind_quoted_newline :
    let events : List StreamEvent :=
      [.data [0x22, 0x61, 0x0A, 0x22, 0xC3], .data [0xA9, 0x0A, 0x62], .failure "gone"]
    let start : Reader LineSource := { source := .ofEvents 3 events }
    let last := start.after [.line true false]
    0 < 3 ∧ last.source.cursor = last.source.line.rawEndPos ∧ last.source.error = none ∧
      utf8 ['"', 'a', '\n', '"', 'é', '\n'] ++ last.source.stream.bytes =
        events.flatMap StreamEvent.bytes ∧
      (last.serve (.line true false)).reader.source.finished = true := by
  intro events start last
  have hcapacity : 0 < 3 := by decide
  obtain ⟨hcursor, ⟨consumed, htext, hbytes⟩, hopen, hreads, _⟩ :=
    lent_stream_exact hcapacity events {} [.line true false]
  have hunread : unread last.source = [] := by decide +kernel
  have hdelivered : (deliveredText events).toList = ['"', 'a', '\n', '"', 'é', '\n'] := by
    decide +kernel
  have herror : last.source.error = none := (hopen (by decide +kernel)).1
  rw [hunread, List.append_nil, hdelivered] at htext
  rw [htext, herror, if_neg (by decide), List.append_nil] at hbytes
  refine ⟨hcapacity, hcursor, herror, hbytes.symm, ?_⟩
  rw [hreads, hunread, findsEndedLine_nil]
  rfl

end Delimited
