import Delimited.Source.Basic

/-!
# Buffered streams of bytes

A stream is described by what its reads are going to meet: chunks of bytes, failures, interruptions
(after which the read is simply tried again) and pauses (reads that give no byte although more may
follow). Reads go through a buffer of fixed capacity, which is filled again only when it is empty,
by one read that takes at most that many bytes of the first chunk.

`ByteStream.readSegment` reads up to and including the next newline, or up to a read that gives
no byte. Nothing is lost on the way: `bytes_readSegment` says that the bytes of the segment,
followed by the bytes still in the stream, are the bytes that were in it.
-/

namespace Delimited

/-- What the next read of a stream meets. -/
inductive StreamEvent where
  /-- Bytes, which a read may take a part of. -/
  | data (bytes : List UInt8)
  /-- A failure of the device, met once. -/
  | failure (reason : String)
  /-- An interruption, after which the read is tried again. -/
  | interruption
  /-- A read that gives no byte, met once. -/
  | pause
  deriving DecidableEq, Repr

/-- The bytes that an event brings. -/
def StreamEvent.bytes : StreamEvent → List UInt8
  | .data bytes => bytes
  | _ => []

/-- A byte stream behind a buffer. -/
structure ByteStream where
  /-- The most bytes that the buffer holds. -/
  capacity : Nat
  /-- The bytes in the buffer that are not yet taken. -/
  buffered : List UInt8 := []
  /-- What the reads below the buffer are going to meet. -/
  pending : List StreamEvent

/-- The outcome of reading up to a newline: the bytes taken, and the reason if the reading broke
off because of a failure. -/
structure Segment where
  bytes : List UInt8
  failure : Option String := none
  deriving DecidableEq, Repr

/-- What a segment holds once it is decoded. -/
inductive LineRead where
  /-- Nothing: the stream has ended. -/
  | ended
  /-- A line, with the newline that ends it unless the stream ended first. -/
  | line (text : String)
  /-- A failure, which also loses the bytes read before it. -/
  | failed (error : StreamError)

namespace ByteStream

/-- The byte that ends a line. -/
def newline : UInt8 := 0x0A

/-- Cut after the first newline, if there is one. -/
def splitLine (bytes : List UInt8) : Option (List UInt8 × List UInt8) :=
  match bytes.dropWhile (· != newline) with
  | [] => none
  | ending :: rest => some (bytes.takeWhile (· != newline) ++ [ending], rest)

/-- The bytes left in a buffer that was filled with whole blocks of `capacity` bytes when `used`
bytes of them have been taken. -/
def leftInBlock (capacity used : Nat) : Nat :=
  (capacity - used % capacity) % capacity

/-- Read on to the next newline with an empty buffer, after the bytes `held` of the same line. -/
def readOn (capacity : Nat) (held : List UInt8) : List StreamEvent → Segment × ByteStream
  | [] => ({ bytes := held }, { capacity, pending := [] })
  | .pause :: events => ({ bytes := held }, { capacity, pending := events })
  | .failure reason :: events =>
      ({ bytes := held, failure := some reason }, { capacity, pending := events })
  | .interruption :: events => readOn capacity held events
  | .data bytes :: events =>
      if capacity = 0 then
        ({ bytes := held }, { capacity, pending := .data bytes :: events })
      else
        match splitLine bytes with
        | none => readOn capacity (held ++ bytes) events
        | some (line, rest) =>
            let left := leftInBlock capacity line.length
            ({ bytes := held ++ line },
              { capacity
                buffered := rest.take left
                pending := .data (rest.drop left) :: events })

/-- Read up to and including the next newline, or up to a read that gives no byte. -/
def readSegment (stream : ByteStream) : Segment × ByteStream :=
  match splitLine stream.buffered with
  | some (line, rest) => ({ bytes := line }, { stream with buffered := rest })
  | none => readOn stream.capacity stream.buffered stream.pending

/-- Read all that comes before the next pause or failure. -/
def drain (stream : ByteStream) : Segment :=
  go stream.buffered stream.pending
where
  /-- Read on with an empty buffer after the bytes `held`. -/
  go (held : List UInt8) : List StreamEvent → Segment
    | [] => { bytes := held }
    | .pause :: _ => { bytes := held }
    | .failure reason :: _ => { bytes := held, failure := some reason }
    | .interruption :: events => go held events
    | .data bytes :: events => go (held ++ bytes) events

/-- All bytes still to come from a stream, whatever lies between them. -/
def bytes (stream : ByteStream) : List UInt8 :=
  stream.buffered ++ stream.pending.flatMap StreamEvent.bytes

/-- Cutting after the newline loses nothing. -/
theorem splitLine_append {bytes line rest : List UInt8} (h : splitLine bytes = some (line, rest)) :
    line ++ rest = bytes := by
  unfold splitLine at h
  split at h
  · simp at h
  · rename_i ending tail htail
    simp only [Option.some.injEq, Prod.mk.injEq] at h
    obtain ⟨rfl, rfl⟩ := h
    rw [List.append_assoc, List.singleton_append, ← htail, List.takeWhile_append_dropWhile]

/-- Reading on loses nothing. -/
theorem bytes_readOn (capacity : Nat) (held : List UInt8) (events : List StreamEvent) :
    (readOn capacity held events).1.bytes ++ (readOn capacity held events).2.bytes =
      held ++ events.flatMap StreamEvent.bytes := by
  induction events generalizing held with
  | nil => simp [readOn, bytes]
  | cons event events ih =>
      cases event with
      | pause => simp [readOn, bytes, StreamEvent.bytes]
      | failure reason => simp [readOn, bytes, StreamEvent.bytes]
      | interruption => simpa [readOn, StreamEvent.bytes] using ih held
      | data chunk =>
          simp only [readOn]
          split
          · simp [bytes]
          · split
            · simpa [StreamEvent.bytes] using ih (held ++ chunk)
            · rename_i line rest hsplit
              simp only [bytes, List.flatMap_cons, StreamEvent.bytes]
              rw [← splitLine_append hsplit]
              simp [← List.append_assoc (List.take _ rest)]

/-- The bytes of a segment and the bytes left in the stream are the bytes that were in it. -/
theorem bytes_readSegment (stream : ByteStream) :
    stream.readSegment.1.bytes ++ stream.readSegment.2.bytes = stream.bytes := by
  unfold readSegment
  split
  · rename_i line rest hsplit
    simp [bytes, ← splitLine_append hsplit]
  · exact bytes_readOn _ _ _

end ByteStream

/-- Decode a segment. A failure comes before the question whether the bytes are text. -/
def Segment.decode (segment : Segment) : LineRead :=
  match segment.failure with
  | some reason => .failed (.device reason)
  | none =>
      if segment.bytes.isEmpty then .ended
      else
        match String.fromUTF8? segment.bytes.toByteArray with
        | some text => .line text
        | none => .failed .notUtf8

/-- A decoded line takes bytes. -/
theorem Segment.bytes_ne_nil_of_decode {segment : Segment} {text : String}
    (h : segment.decode = .line text) : segment.bytes ≠ [] := by
  intro hnil
  unfold decode at h
  split at h <;> simp [hnil] at h

/-- A decoded line is not empty. -/
theorem Segment.toList_ne_nil_of_decode {segment : Segment} {text : String}
    (h : segment.decode = .line text) : text.toList ≠ [] := by
  have hbytes := Segment.bytes_ne_nil_of_decode h
  unfold decode at h
  split at h
  · simp at h
  · split at h
    · simp at h
    · split at h
      · rename_i decoded hdecoded
        simp only [LineRead.line.injEq] at h
        subst h
        unfold String.fromUTF8? at hdecoded
        split at hdecoded
        · simp only [Option.some.injEq] at hdecoded
          subst hdecoded
          intro hnil
          apply hbytes
          have hempty := String.toList_eq_nil_iff.mp hnil
          have hsize := congrArg String.utf8ByteSize hempty
          simpa [String.fromUTF8, String.utf8ByteSize] using hsize
        · simp at hdecoded
      · simp at h

namespace ByteStream

/-- Read one line of text. -/
def readLine (stream : ByteStream) : LineRead × ByteStream :=
  let read := stream.readSegment
  (read.1.decode, read.2)

/-- Reading a line takes bytes out of the stream. -/
theorem length_bytes_readLine_lt {stream : ByteStream} {text : String}
    (h : stream.readLine.1 = .line text) :
    stream.readLine.2.bytes.length < stream.bytes.length := by
  have htaken := Segment.bytes_ne_nil_of_decode h
  have hsum := congrArg List.length stream.bytes_readSegment
  rw [List.length_append] at hsum
  have := List.length_pos_iff.mpr htaken
  simp only [readLine]
  omega

/-- The characters of all lines before the one that cannot be read. -/
def text (stream : ByteStream) : List Char :=
  match _h : stream.readLine.1 with
  | .line line => line.toList ++ stream.readLine.2.text
  | .ended => []
  | .failed _ => []
termination_by stream.bytes.length
decreasing_by exact length_bytes_readLine_lt _h

/-- The text of a stream is its first line and the text of the stream behind it. -/
theorem text_of_line {stream : ByteStream} {line : String}
    (h : stream.readLine.1 = .line line) :
    stream.text = line.toList ++ stream.readLine.2.text := by
  rw [text]
  split <;> simp_all

/-- A stream that has ended has no text. -/
theorem text_of_ended {stream : ByteStream} (h : stream.readLine.1 = .ended) :
    stream.text = [] := by
  rw [text]
  split <;> simp_all

/-- A stream whose first line cannot be read has no text. -/
theorem text_of_failed {stream : ByteStream} {error : StreamError}
    (h : stream.readLine.1 = .failed error) : stream.text = [] := by
  rw [text]
  split <;> simp_all

end ByteStream

end Delimited
