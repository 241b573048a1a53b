import Delimited.Proofs.Agreement
import Delimited.Source.LineSource
import Delimited.Source.TextSource
import Mathlib.Data.List.TakeWhile

/-!
# The text that a stream delivers

A stream delivers bytes, pauses and failures; how the bytes are cut into chunks, how much of them a
buffer holds and how often a read is interrupted does not show in this list of signals. Cut after
each newline, pause and failure, the signals make the segments of the stream. `deliveredText` is the
text of the segments before the first one that is empty, failed or not UTF-8.

`answers_lineSource_eq_textSource` says that no session can tell a reader over the stream from a
reader over that text.
-/

namespace Delimited

/-- What a stream delivers, byte by byte. -/
inductive Signal where
  | byte (byte : UInt8)
  /-- The device failed. -/
  | failure (reason : String)
  /-- A read gave no byte. -/
  | pause
  deriving DecidableEq, Repr

/-- The signals of an event: nothing tells an interruption or where a chunk ends. -/
def StreamEvent.signals : StreamEvent → List Signal
  | .data bytes => bytes.map .byte
  | .failure reason => [.failure reason]
  | .interruption => []
  | .pause => [.pause]

/-- Cut signals after each newline, pause and failure. The bytes `held` belong to the first segment,
in front of the signals. -/
def segments (held : List UInt8) : List Signal → List Segment
  | [] => [{ bytes := held }]
  | .pause :: rest => { bytes := held } :: segments [] rest
  | .failure reason :: rest => { bytes := held, failure := some reason } :: segments [] rest
  | .byte byte :: rest =>
      if byte = ByteStream.newline then { bytes := held ++ [byte] } :: segments [] rest
      else segments (held ++ [byte]) rest

/-- The text of a segment, unless it is empty, was hit by a failure or is not UTF-8. -/
def Segment.text? (segment : Segment) : Option String :=
  if segment.failure.isSome ∨ segment.bytes = [] then none
  else String.fromUTF8? segment.bytes.toByteArray

/-- The texts of the segments before the first one that has none. -/
def leadingTexts (segments : List Segment) : List String :=
  (segments.takeWhile (·.text?.isSome)).filterMap Segment.text?

/-- The text that a stream delivers before it ends or fails. -/
def deliveredText (events : List StreamEvent) : String :=
  String.join (leadingTexts (segments [] (events.flatMap StreamEvent.signals)))

/-- The segment with a text adds it in front of the texts behind it. -/
theorem leadingTexts_cons_some {segment : Segment} {text : String} (h : segment.text? = some text)
    (rest : List Segment) : leadingTexts (segment :: rest) = text :: leadingTexts rest := by
  simp [leadingTexts, h]

/-- A segment without a text hides all that lies behind it. -/
theorem leadingTexts_cons_none {segment : Segment} (h : segment.text? = none)
    (rest : List Segment) : leadingTexts (segment :: rest) = [] := by
  simp [leadingTexts, h]

/-- A segment is decoded to a line exactly if it has a text. -/
theorem Segment.decode_eq_line_iff {segment : Segment} {text : String} :
    segment.decode = .line text ↔ segment.text? = some text := by
  unfold decode text?
  cases hfailure : segment.failure with
  | some reason => simp
  | none =>
      by_cases hempty : segment.bytes = []
      · simp [hempty]
      · cases String.fromUTF8? segment.bytes.toByteArray <;> simp [hempty]

/-- Bytes without a newline join the bytes held. -/
theorem segments_bytes {bytes : List UInt8} (h : ByteStream.newline ∉ bytes) (held : List UInt8)
    (rest : List Signal) :
    segments held (bytes.map .byte ++ rest) = segments (held ++ bytes) rest := by
  induction bytes generalizing held with
  | nil => simp
  | cons byte bytes ih =>
      obtain ⟨hbyte, hbytes⟩ := List.ne_and_not_mem_of_not_mem_cons h
      simp only [List.map_cons, List.cons_append, segments, if_neg (Ne.symm hbyte)]
      rw [ih hbytes, List.append_assoc, List.singleton_append]

namespace ByteStream

/-- The signals still to come from a stream. -/
def signals (stream : ByteStream) : List Signal :=
  stream.buffered.map .byte ++ stream.pending.flatMap StreamEvent.signals

/-- Where nothing can be cut off there is no newline. -/
theorem newline_notMem_of_splitLine {bytes : List UInt8} (h : splitLine bytes = none) :
    newline ∉ bytes := by
  unfold splitLine at h
  split at h
  · rename_i hnil
    intro hmem
    simpa using List.dropWhile_eq_nil_iff.mp hnil newline hmem
  · simp at h

/-- A line that is cut off ends in the only newline it has. -/
theorem splitLine_eq_some {bytes line rest : List UInt8} (h : splitLine bytes = some (line, rest)) :
    ∃ front, line = front ++ [newline] ∧ newline ∉ front := by
  unfold splitLine at h
  split at h
  · simp at h
  · rename_i ending tail htail
    simp only [Option.some.injEq, Prod.mk.injEq] at h
    obtain ⟨rfl, rfl⟩ := h
    have hending : ending = newline := by
      have hhead := List.head_dropWhile_not (· != newline) (l := bytes) (by simp [htail])
      simpa [htail] using hhead
    refine ⟨bytes.takeWhile (· != newline), by rw [hending], ?_⟩
    intro hmem
    simpa using List.mem_takeWhile_imp hmem

/-- Cutting off a line cuts off a segment. -/
theorem segments_of_splitLine {bytes line rest : List UInt8}
    (h : splitLine bytes = some (line, rest)) (held : List UInt8) (behind : List Signal) :
    segments held (bytes.map .byte ++ behind) =
      { bytes := held ++ line } :: segments [] (rest.map .byte ++ behind) := by
  obtain ⟨front, rfl, hfront⟩ := splitLine_eq_some h
  rw [← splitLine_append h]
  simp only [List.map_append, List.append_assoc]
  rw [segments_bytes hfront]
  simp [segments]

/-- What is left behind the first segment is cut as the signals of the stream are; nothing is left if
the stream is over. -/
def Leaves (behind : List Segment) (stream : ByteStream) : Prop :=
  behind = segments [] stream.signals ∨ behind = [] ∧ stream.signals = []

/-- Reading on reads the first segment and leaves the others. -/
theorem segments_readOn {capacity : Nat} (hcapacity : 0 < capacity) (held : List UInt8)
    (events : List StreamEvent) :
    ∃ behind, segments held (events.flatMap StreamEvent.signals) =
        (readOn capacity held events).1 :: behind ∧
      Leaves behind (readOn capacity held events).2 := by
  induction events generalizing held with
  | nil => exact ⟨[], rfl, .inr ⟨rfl, rfl⟩⟩
  | cons event events ih =>
      cases event with
      | pause => exact ⟨_, rfl, .inl rfl⟩
      | failure reason => exact ⟨_, rfl, .inl rfl⟩
      | interruption => exact ih held
      | data bytes =>
          simp only [List.flatMap_cons, StreamEvent.signals, readOn,
            if_neg (Nat.ne_of_gt hcapacity)]
          cases hsplit : splitLine bytes with
          | none =>
              rw [segments_bytes (newline_notMem_of_splitLine hsplit)]
              exact ih (held ++ bytes)
          | some cut =>
              obtain ⟨line, rest⟩ := cut
              refine ⟨_, segments_of_splitLine hsplit _ _, .inl ?_⟩
              -- the buffer takes a part of the rest of the chunk; the other part stays pending
              simp only [signals, List.flatMap_cons, StreamEvent.signals]
              rw [← List.append_assoc, ← List.map_append, List.take_append_drop]

/-- Reading a segment reads the first one and leaves the others. -/
theorem segments_readSegment {stream : ByteStream} (hcapacity : 0 < stream.capacity) :
    ∃ behind, segments [] stream.signals = stream.readSegment.1 :: behind ∧
      Leaves behind stream.readSegment.2 := by
  unfold signals readSegment
  cases hsplit : splitLine stream.buffered with
  | none =>
      rw [segments_bytes (newline_notMem_of_splitLine hsplit)]
      exact segments_readOn hcapacity _ _
  | some cut =>
      obtain ⟨line, rest⟩ := cut
      exact ⟨_, segments_of_splitLine hsplit _ _, .inl rfl⟩

/-- The segments left hold the texts that the stream still has. -/
theorem Leaves.leadingTexts {behind : List Segment} {stream : ByteStream}
    (h : Leaves behind stream) :
    Delimited.leadingTexts behind = Delimited.leadingTexts (segments [] stream.signals) := by
  obtain rfl | ⟨rfl, hsignals⟩ := h
  · rfl
  · rw [hsignals]
    simp [segments, Delimited.leadingTexts, Segment.text?]

/-- Reading on keeps the capacity of the buffer. -/
@[simp] theorem capacity_readOn (capacity : Nat) (held : List UInt8) (events : List StreamEvent) :
    (readOn capacity held events).2.capacity = capacity := by
  fun_induction readOn capacity held events <;> first | rfl | assumption

/-- Reading a segment keeps the capacity of the buffer. -/
@[simp] theorem capacity_readSegment (stream : ByteStream) :
    stream.readSegment.2.capacity = stream.capacity := by
  unfold readSegment
  split
  · rfl
  · exact capacity_readOn _ _ _

/-- A stream whose first segment is not decoded to a line has no leading texts. -/
theorem leadingTexts_eq_nil {stream : ByteStream} (hcapacity : 0 < stream.capacity)
    (hline : ∀ line, stream.readLine.1 ≠ .line line) :
    leadingTexts (segments [] stream.signals) = [] := by
  obtain ⟨behind, hsegments, _⟩ := segments_readSegment hcapacity
  have htext : stream.readSegment.1.text? = none := by
    rw [Option.eq_none_iff_forall_ne_some]
    intro line hsome
    exact hline line (Segment.decode_eq_line_iff.mpr hsome)
  rw [hsegments, leadingTexts_cons_none htext]

/-- The text of a stream is that of its leading segments. -/
theorem text_eq_leadingTexts {stream : ByteStream} (hcapacity : 0 < stream.capacity) :
    stream.text = (String.join (leadingTexts (segments [] stream.signals))).toList := by
  fun_induction text stream with
  | case1 stream line hline ih =>
      have htext := Segment.decode_eq_line_iff.mp hline
      obtain ⟨behind, hsegments, hbehind⟩ := segments_readSegment hcapacity
      rw [ih (by simpa [readLine] using hcapacity), hsegments, leadingTexts_cons_some htext,
        hbehind.leadingTexts, String.join_cons, String.toList_append]
      rfl
  | case2 stream hended =>
      rw [leadingTexts_eq_nil hcapacity (by simp [hended])]
      simp
  | case3 stream error hfailed =>
      rw [leadingTexts_eq_nil hcapacity (by simp [hfailed])]
      simp

end ByteStream

/-- A source of the lines of a stream from which nothing has been read. -/
def LineSource.ofEvents (capacity : Nat) (events : List StreamEvent) : LineSource :=
  { stream := { capacity, pending := events } }

/-- A fresh source of lines is going to hand out the delivered text. -/
theorem LineSource.unread_ofEvents {capacity : Nat} (hcapacity : 0 < capacity)
    (events : List StreamEvent) :
    CharSource.unread (LineSource.ofEvents capacity events) = (deliveredText events).toList := by
  have htext : ({ capacity, pending := events } : ByteStream).text = _ :=
    ByteStream.text_eq_leadingTexts hcapacity
  simpa [CharSource.unread, unread, held, ofEvents, charsFrom, ByteStream.signals, deliveredText]
    using htext

/-- A reader over the lines of a stream agrees with a reader over the text that it delivers. -/
theorem agrees_ofEvents {capacity : Nat} (hcapacity : 0 < capacity) (events : List StreamEvent)
    (options : Options) :
    ({ source := LineSource.ofEvents capacity events, options } : Reader LineSource).Agrees
      ({ source := TextSource.ofText (deliveredText events), options } : Reader TextSource) :=
  ⟨rfl, rfl, LineSource.unread_ofEvents hcapacity events⟩

/-- A reader over the lines of a stream gives the same answers, in every session, as a reader with
the same options over the text that the stream delivers. In particular the answers do not depend on
the capacity of the buffer, the bounds of the chunks and the interruptions. -/
theorem answers_lineSource_eq_textSource {capacity : Nat} (hcapacity : 0 < capacity)
    (events : List StreamEvent) (options : Options) (requests : List Request) :
    (replies Reader.respond { source := LineSource.ofEvents capacity events, options } requests).map
          Reply.answer =
        (replies Reader.respond { source := TextSource.ofText (deliveredText events), options }
          requests).map Reply.answer ∧
      ∀ (otherCapacity : Nat) (otherEvents : List StreamEvent), 0 < otherCapacity →
        otherEvents.flatMap StreamEvent.signals = events.flatMap StreamEvent.signals →
        (replies Reader.respond { source := LineSource.ofEvents otherCapacity otherEvents, options }
            requests).map Reply.answer =
          (replies Reader.respond { source := LineSource.ofEvents capacity events, options }
            requests).map Reply.answer := by
  have hanswers := (agrees_ofEvents hcapacity events options).answers requests
  refine ⟨hanswers, ?_⟩
  intro otherCapacity otherEvents hother hsignals
  have hotherAnswers := (agrees_ofEvents hother otherEvents options).answers requests
  have htext : deliveredText otherEvents = deliveredText events := by
    simp only [deliveredText, hsignals]
  rw [hotherAnswers, hanswers, htext]

/-- A character cut in two by an interruption reaches the reader whole, through a buffer of one byte,
and the line that the device fails in does not reach it at all. -/
theorem answers_lineSource_cut_character :
    0 < 1 ∧ (replies Reader.respond
        { source := LineSource.ofEvents 1 [.data [0xC3], .interruption,
            .data [0xA9, 0x2C, 0x61, 0x0A, 0x62], .failure "gone", .data [0x63, 0x0A]] }
        [.peek, .reader (.line true false), .next, .reader (.records 2)]).map Reply.answer =
      [.char (some 'é'), .line .line ["é", "a"] 1, .char none, .records [] 1] := by
  refine ⟨by decide, ?_⟩
  rw [(answers_lineSource_eq_textSource (by decide) _ _ _).1]
  decide +kernel

end Delimited
