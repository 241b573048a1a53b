import Delimited.Error

/-!
# Where output goes

A sink takes bytes in order. It may have room for a limited number of them: it then takes what fits of
the text that does not, and refuses from there on. It may also refuse to be flushed.

Output is handed over in pieces. A refused piece of a document counts as a failure to write the
document; a refused piece of the layout around documents as a failure of the device.
-/

namespace Delimited

/-- Takes the bytes of an output. -/
structure Sink where
  /-- The bytes taken so far. -/
  written : ByteArray := .empty
  /-- How many more bytes it takes, if that is limited. -/
  room : Option Nat := none
  /-- It cannot be flushed. -/
  refusesFlush : Bool := false
  /-- It was asked to be flushed. -/
  flushed : Bool := false

/-- What a piece of output belongs to. -/
inductive Origin where
  /-- A document in a format with a writer of its own. -/
  | document
  /-- The layout around documents. -/
  | layout
  deriving DecidableEq, Repr

/-- A piece of output. -/
structure Piece where
  origin : Origin
  text : String
  deriving DecidableEq, Repr

/-- The error for a refused piece. -/
def Origin.error (origin : Origin) (reason : String) : Error :=
  match origin with
  | .document => .output reason
  | .layout => .io (.device reason)

namespace Sink

/-- Why a sink takes no more bytes. -/
def fullReason : String := "writer is full"

/-- Why a sink is not flushed. -/
def flushReason : String := "flush refused"

/-- Hand a text over. The second component tells whether all of it was taken. -/
def put (sink : Sink) (text : String) : Sink × Bool :=
  let bytes := text.toUTF8
  match sink.room with
  | none => ({ sink with written := sink.written ++ bytes }, true)
  | some room =>
      if bytes.size ≤ room then
        ({ sink with written := sink.written ++ bytes, room := some (room - bytes.size) }, true)
      else
        ({ sink with written := sink.written ++ bytes.extract 0 room, room := some 0 }, false)

/-- Hand pieces over until one is refused. -/
def putAll (sink : Sink) : List Piece → Sink × Option Error
  | [] => (sink, none)
  | piece :: pieces =>
      match sink.put piece.text with
      | (sink, true) => sink.putAll pieces
      | (sink, false) => (sink, some (piece.origin.error fullReason))

/-- Flush. -/
def flush (sink : Sink) : Sink × Option Error :=
  ({ sink with flushed := true },
    if sink.refusesFlush then some (.io (.device flushReason)) else none)

end Sink

end Delimited
