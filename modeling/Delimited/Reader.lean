import Delimited.LogicalLine

/-!
# Reading logical lines

A reader takes one logical line at a time from a source. The first character of a physical line
decides what the line is: the comment character makes it a comment line, which is passed over; a
newline, alone or after a carriage return, makes it an empty line, which is passed over or reported;
anything else starts a logical line, which is scanned. Every physical line is counted, also those
that a quoted field runs over.
-/

namespace Delimited

/-- A reader of logical lines. -/
structure Reader (σ : Type) where
  source : σ
  options : Options := {}
  /-- How many physical lines have been taken. -/
  line : Nat := 0

/-- The outcome of one read. -/
structure Reading (σ : Type) where
  /-- The fields of the logical line; no line is left if there is none. -/
  fields? : Option (List Field)
  /-- The reader afterwards. -/
  reader : Reader σ
  /-- What was noted on the way. -/
  events : Array Event

/-- The test whether a character ends its physical line at once. -/
structure LineEnd (σ : Type) where
  /-- The line is empty. -/
  empty : Bool
  /-- The source, behind the newline that follows a carriage return. -/
  source : σ
  /-- The failures met on the way. -/
  events : Array Event

variable {σ : Type} [CharSource σ]

/-- Test whether the first character of a physical line ends it, alone or with the newline that
follows it. -/
def LineEnd.ofFirst (first : Char) (source : σ) : LineEnd σ :=
  if first = '\n' then { empty := true, source, events := #[] }
  else if first = '\r' then
    let ahead := CharSource.peek source
    if ahead.char = some '\n' then
      let pull := CharSource.next ahead.source
      { empty := true, source := pull.source, events := ahead.events ++ pull.events }
    else
      { empty := false, source := ahead.source, events := ahead.events }
  else
    { empty := false, source, events := #[] }

/-- Testing for an empty line never lengthens the unread text. -/
theorem LineEnd.length_unread_ofFirst_le (first : Char) (source : σ) :
    (CharSource.unread (LineEnd.ofFirst first source).source).length ≤
      (CharSource.unread source).length := by
  unfold ofFirst
  split
  · exact Nat.le_refl _
  · split
    · dsimp only
      split <;> simp
    · exact Nat.le_refl _

/-- The tokens of the line that was read, stripped of white space where that is asked for; none if no
line was left. -/
def Reading.tokens (reading : Reading σ) (trim : Bool) : List String :=
  (reading.fields?.getD []).map (Field.token · trim)

namespace Reader

/-- Bind a reader to a source, unless the options break a rule. -/
def ofOptions (source : σ) (options : Options) : Except OptionFault (Reader σ) :=
  match options.fault? with
  | some fault => .error fault
  | none => .ok { source, options }

omit [CharSource σ] in
/-- A reader is bound exactly if the options are valid. -/
theorem ofOptions_eq_ok_iff {source : σ} {options : Options} {reader : Reader σ} :
    ofOptions source options = .ok reader ↔ reader = { source, options } ∧ options.Valid := by
  unfold ofOptions Options.Valid
  cases options.fault? with
  | some fault => simp
  | none => simp [eq_comm]

/-- Read the fields of the next logical line. An empty line is reported as a line without fields,
unless empty lines are passed over. -/
def readFields (reader : Reader σ) (skipEmpty : Bool) (events : Array Event := #[]) : Reading σ :=
  let pull := CharSource.next reader.source
  let events := events ++ pull.events
  match _h : pull.char with
  | none =>
      { fields? := none
        reader := { reader with source := pull.source }
        events := events.push (.endOfStream reader.line) }
  | some first =>
      let line := reader.line + 1
      if first = reader.options.comment then
        let events := events.push (.skippedComment line)
        if first = '\n' then
          readFields { reader with source := pull.source, line } skipEmpty events
        else
          let skipped := skipLine pull.source
          readFields { reader with source := skipped.source, line } skipEmpty
            (events ++ skipped.events)
      else
        let lineEnd := LineEnd.ofFirst first pull.source
        let events := events ++ lineEnd.events
        if lineEnd.empty then
          if skipEmpty then
            readFields { reader with source := lineEnd.source, line } skipEmpty
              (events.push (.skippedEmpty line))
          else
            { fields? := some []
              reader := { reader with source := lineEnd.source, line }
              events }
        else
          let scanned := scanLine reader.options.dialect {} first lineEnd.source
          let last := line + scanned.continuations
          { fields? := some scanned.fields
            reader := { reader with source := scanned.source, line := last }
            events := (events ++ scanned.events).push
              (.readLine line last scanned.fields.length) }
termination_by (CharSource.unread reader.source).length
decreasing_by
  · exact CharSource.length_unread_next_lt _h
  · exact Nat.lt_of_le_of_lt (length_unread_skipLine_le _ _)
      (CharSource.length_unread_next_lt _h)
  · exact Nat.lt_of_le_of_lt (LineEnd.length_unread_ofFirst_le _ _)
      (CharSource.length_unread_next_lt _h)

/-- A read that gives a line takes at least one character. -/
theorem length_unread_readFields_lt (reader : Reader σ) (skipEmpty : Bool)
    (events : Array Event) (h : (reader.readFields skipEmpty events).fields?.isSome = true) :
    (CharSource.unread (reader.readFields skipEmpty events).reader.source).length <
      (CharSource.unread reader.source).length := by
  fun_induction readFields reader skipEmpty events with
  | case1 => simp at h
  | case2 _ _ _ _ _ _ hpull _ ih =>
      exact Nat.lt_trans (ih h) (CharSource.length_unread_next_lt hpull)
  | case3 _ _ _ _ _ _ _ hpull _ ih =>
      exact Nat.lt_trans (ih h) (Nat.lt_of_le_of_lt (length_unread_skipLine_le _ _)
        (CharSource.length_unread_next_lt hpull))
  | case4 _ _ _ _ _ hpull _ _ _ _ _ _ ih =>
      exact Nat.lt_trans (ih h) (Nat.lt_of_le_of_lt (LineEnd.length_unread_ofFirst_le _ _)
        (CharSource.length_unread_next_lt hpull))
  | case5 _ _ _ _ _ hpull =>
      exact Nat.lt_of_le_of_lt (LineEnd.length_unread_ofFirst_le _ _)
        (CharSource.length_unread_next_lt hpull)
  | case6 _ _ _ _ _ hpull =>
      exact Nat.lt_of_le_of_lt (length_unread_scanLine_le _ _ _ _ _)
        (Nat.lt_of_le_of_lt (LineEnd.length_unread_ofFirst_le _ _)
          (CharSource.length_unread_next_lt hpull))

/-- Change the comment character for all following reads. The change always applies; a character
that the options do not admit is noted. -/
def setComment (reader : Reader σ) (comment : Char) : Reader σ × Option Event :=
  let options := { reader.options with comment }
  ({ reader with options }, options.fault?.map .commentConflict)

/-- Read the next record, passing over empty lines and trimming as the options say. -/
def nextRecord (reader : Reader σ) : Option Record × Reading σ :=
  let reading := reader.readFields reader.options.skipEmpty
  let record := reading.fields?.map fun _ ↦
    { line := reading.reader.line, fields := reading.tokens reader.options.trim }
  (record, reading)

end Reader

end Delimited
