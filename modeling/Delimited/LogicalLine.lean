import Delimited.Event
import Delimited.Record
import Delimited.Source.Basic

/-!
# Scanning a logical line

A logical line is scanned from its first character, which the reader has already taken and knows to
start neither a comment line nor an empty line. At each character the scan stands at one of three
places: where a field may start, within the plain text of a field, or between quotes.

* Between quotes everything is text except the quote: two quotes stand for one, and a single quote
  closes the quoted text, after which the field goes on as plain text.
* Elsewhere the delimiter ends the field; a newline, alone or after a carriage return, ends the line;
  the comment character ends the line and drops what is left of it; a quote where a field may start
  opens quoted text; everything else is text.

A newline between quotes is part of the field. It opens another physical line only if something
follows it, and the scan counts those it opens.
-/

namespace Delimited

/-- Where in a line a scan stands. -/
inductive Place where
  /-- A field may start here. -/
  | fieldStart
  /-- Within plain text. -/
  | plain
  /-- Between quotes. -/
  | quoted
  deriving DecidableEq, Repr

/-- What a scan has found so far. -/
structure LineScan where
  /-- The fields that are complete. -/
  fields : Array Field := #[]
  /-- The field that is being read. -/
  field : Field := {}
  /-- Where the scan stands. -/
  place : Place := .fieldStart
  /-- How many further physical lines quoted newlines have opened. -/
  continuations : Nat := 0

/-- The characters that split lines: the delimiter and the comment character. -/
structure Dialect where
  delimiter : Char
  comment : Char
  deriving DecidableEq, Repr

/-- The dialect that options ask for. -/
def Options.dialect (options : Options) : Dialect :=
  { delimiter := options.delimiter, comment := options.comment }

@[simp] theorem Options.dialect_delimiter (options : Options) :
    options.dialect.delimiter = options.delimiter := rfl

@[simp] theorem Options.dialect_comment (options : Options) :
    options.dialect.comment = options.comment := rfl

/-- The event for a failure that a request for a character met, if there was one. -/
def Pull.events {σ : Type} (pull : Pull σ) : Array Event :=
  match pull.failure with
  | some error => #[.streamFailed error]
  | none => #[]

/-- The rest of a physical line is dropped: the source behind it and the failures met. -/
structure Skipped (σ : Type) where
  source : σ
  events : Array Event

/-- How a scan goes on after a character. -/
structure Reaction (σ : Type) where
  /-- What has been found. -/
  scan : LineScan
  /-- The line is complete. -/
  finished : Bool
  /-- The source afterwards. -/
  source : σ
  /-- The failures met on the way. -/
  events : Array Event

/-- A scanned logical line. -/
structure ScannedLine (σ : Type) where
  /-- The fields, of which there is at least one. -/
  fields : List Field
  /-- How many further physical lines quoted newlines have opened. -/
  continuations : Nat
  /-- The source behind the line. -/
  source : σ
  /-- The failures met on the way. -/
  events : Array Event

namespace LineScan

/-- Add a character to the field that is being read, and stand at a place. -/
def push (scan : LineScan) (char : Char) (place : Place) : LineScan :=
  { scan with field := scan.field.push char, place }

/-- Complete the field that is being read and stand where the next one may start. -/
def nextField (scan : LineScan) : LineScan :=
  { scan with fields := scan.fields.push scan.field, field := {}, place := .fieldStart }

/-- Open quoted text at the start of a field. -/
def openQuote (scan : LineScan) : LineScan :=
  { scan with field := { scan.field with quoted := true }, place := .quoted }

/-- Close quoted text. -/
def closeQuote (scan : LineScan) : LineScan :=
  { scan with place := .plain }

/-- All fields of a line that ends here. -/
def allFields (scan : LineScan) : List Field :=
  scan.fields.toList ++ [scan.field]

end LineScan

variable {σ : Type} [CharSource σ]

/-- Take characters up to and including the next newline. -/
def skipLine (source : σ) (events : Array Event := #[]) : Skipped σ :=
  let pull := CharSource.next source
  let events := events ++ pull.events
  match _h : pull.char with
  | none => { source := pull.source, events }
  | some char =>
      if char = '\n' then { source := pull.source, events } else skipLine pull.source events
termination_by (CharSource.unread source).length
decreasing_by exact CharSource.length_unread_next_lt _h

namespace LineScan

/-- React to a character between quotes. -/
def reactQuoted (scan : LineScan) (char : Char) (source : σ) : Reaction σ :=
  if char = quote then
    let ahead := CharSource.peek source
    if ahead.char = some quote then
      let pull := CharSource.next ahead.source
      { scan := scan.push quote .quoted
        finished := false
        source := pull.source
        events := ahead.events ++ pull.events }
    else
      { scan := scan.closeQuote, finished := false, source := ahead.source, events := ahead.events }
  else if char = '\n' then
    let ahead := CharSource.peek source
    let opened := if ahead.char.isSome then 1 else 0
    { scan := { scan.push char .quoted with continuations := scan.continuations + opened }
      finished := false
      source := ahead.source
      events := ahead.events }
  else
    { scan := scan.push char .quoted, finished := false, source, events := #[] }

/-- React to a character that has no part in ending the line: a comment, an opening quote or text. -/
def reactText (dialect : Dialect) (scan : LineScan) (char : Char) (source : σ) : Reaction σ :=
  if char = dialect.comment then
    let skipped := skipLine source
    { scan, finished := true, source := skipped.source, events := skipped.events }
  else if char = quote ∧ scan.place = .fieldStart then
    { scan := scan.openQuote, finished := false, source, events := #[] }
  else
    { scan := scan.push char .plain, finished := false, source, events := #[] }

/-- React to a character outside quotes. -/
def reactPlain (dialect : Dialect) (scan : LineScan) (char : Char) (source : σ) : Reaction σ :=
  if char = dialect.delimiter then
    { scan := scan.nextField, finished := false, source, events := #[] }
  else if char = '\n' then
    { scan, finished := true, source, events := #[] }
  else if char = '\r' then
    let ahead := CharSource.peek source
    if ahead.char = some '\n' then
      let pull := CharSource.next ahead.source
      { scan, finished := true, source := pull.source, events := ahead.events ++ pull.events }
    else
      let reaction := scan.reactText dialect char ahead.source
      { reaction with events := ahead.events ++ reaction.events }
  else
    scan.reactText dialect char source

/-- React to a character. -/
def react (dialect : Dialect) (scan : LineScan) (char : Char) (source : σ) : Reaction σ :=
  match scan.place with
  | .quoted => scan.reactQuoted char source
  | .fieldStart => scan.reactPlain dialect char source
  | .plain => scan.reactPlain dialect char source

end LineScan

/-- Dropping the rest of a line never lengthens the unread text. -/
theorem length_unread_skipLine_le (source : σ) (events : Array Event) :
    (CharSource.unread (skipLine source events).source).length ≤
      (CharSource.unread source).length := by
  fun_induction skipLine source events with
  | case1 => exact CharSource.length_unread_next_le _
  | case2 => exact CharSource.length_unread_next_le _
  | case3 source events _ _ _ _ _ ih =>
      exact Nat.le_trans ih (CharSource.length_unread_next_le source)

namespace LineScan

/-- Reacting to a character between quotes never lengthens the unread text. -/
theorem length_unread_reactQuoted_le (scan : LineScan) (char : Char) (source : σ) :
    (CharSource.unread (scan.reactQuoted char source).source).length ≤
      (CharSource.unread source).length := by
  unfold reactQuoted
  split
  · dsimp only
    split <;> simp
  · split <;> simp

/-- Reacting to text never lengthens the unread text. -/
theorem length_unread_reactText_le (dialect : Dialect) (scan : LineScan) (char : Char)
    (source : σ) :
    (CharSource.unread (scan.reactText dialect char source).source).length ≤
      (CharSource.unread source).length := by
  unfold reactText
  split
  · exact length_unread_skipLine_le source #[]
  · split <;> exact Nat.le_refl _

/-- Reacting to a character outside quotes never lengthens the unread text. -/
theorem length_unread_reactPlain_le (dialect : Dialect) (scan : LineScan) (char : Char)
    (source : σ) :
    (CharSource.unread (scan.reactPlain dialect char source).source).length ≤
      (CharSource.unread source).length := by
  unfold reactPlain
  split
  · exact Nat.le_refl _
  · split
    · exact Nat.le_refl _
    · split
      · dsimp only
        split
        · simp
        · have htext := scan.length_unread_reactText_le dialect char (CharSource.peek source).source
          rwa [CharSource.unread_peek] at htext
      · exact scan.length_unread_reactText_le dialect char source

/-- Reacting to a character never lengthens the unread text. -/
theorem length_unread_react_le (dialect : Dialect) (scan : LineScan) (char : Char) (source : σ) :
    (CharSource.unread (scan.react dialect char source).source).length ≤
      (CharSource.unread source).length := by
  unfold react
  split
  · exact scan.length_unread_reactQuoted_le char source
  · exact scan.length_unread_reactPlain_le dialect char source
  · exact scan.length_unread_reactPlain_le dialect char source

end LineScan

/-- Scan on from a character that is already taken. -/
def scanLine (dialect : Dialect) (scan : LineScan) (char : Char) (source : σ)
    (events : Array Event := #[]) : ScannedLine σ :=
  let reaction := scan.react dialect char source
  let events := events ++ reaction.events
  if reaction.finished then
    { fields := reaction.scan.allFields
      continuations := reaction.scan.continuations
      source := reaction.source
      events }
  else
    let pull := CharSource.next reaction.source
    let events := events ++ pull.events
    match _h : pull.char with
    | none =>
        { fields := reaction.scan.allFields
          continuations := reaction.scan.continuations
          source := pull.source
          events }
    | some following => scanLine dialect reaction.scan following pull.source events
termination_by (CharSource.unread source).length
decreasing_by
  exact Nat.lt_of_lt_of_le (CharSource.length_unread_next_lt _h)
    (LineScan.length_unread_react_le dialect scan char source)

/-- Scanning a line never lengthens the unread text. -/
theorem length_unread_scanLine_le (dialect : Dialect) (scan : LineScan) (char : Char) (source : σ)
    (events : Array Event) :
    (CharSource.unread (scanLine dialect scan char source events).source).length ≤
      (CharSource.unread source).length := by
  fun_induction scanLine dialect scan char source events with
  | case1 scan char source => exact LineScan.length_unread_react_le dialect scan char source
  | case2 scan char source =>
      exact Nat.le_trans (CharSource.length_unread_next_le _)
        (LineScan.length_unread_react_le dialect scan char source)
  | case3 scan char source _ _ _ _ _ _ _ _ ih =>
      exact Nat.le_trans ih (Nat.le_trans (CharSource.length_unread_next_le _)
        (LineScan.length_unread_react_le dialect scan char source))

end Delimited
