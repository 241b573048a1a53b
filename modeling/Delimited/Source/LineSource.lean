import Delimited.Source.ByteStream

/-!
# Lines of a byte stream as a source

A line source holds one decoded line of a byte stream and a cursor into it, a position counted in
bytes. A request for a character first fetches another line when no character is left at the cursor.
The line source is finished, for good, once a fetch finds the stream at its end or meets a failure; a
failure is kept until it is taken.

`LineSource.unread` is what the source is going to hand out: the rest of the held line, then every
line of the stream up to the one that cannot be read.
-/

namespace Delimited

/-- Read the character at a byte position, given the position of the first character listed. The
result is the text from there on; it is empty at the end and inside a character. -/
def charsFrom : List Char → (start cursor : String.Pos.Raw) → List Char
  | [], _, _ => []
  | char :: chars, start, cursor =>
      if start = cursor then char :: chars else charsFrom chars (start + char) cursor

/-- The lines of a byte stream, held one at a time. -/
structure LineSource where
  /-- The stream below. -/
  stream : ByteStream
  /-- The line in hand. -/
  line : String := ""
  /-- The position in it of the next character. -/
  cursor : String.Pos.Raw := 0
  /-- The stream is not read again. -/
  finished : Bool := false
  /-- The failure that finished the source, until it is taken. -/
  error : Option StreamError := none

namespace LineSource

/-- The rest of the line in hand. -/
def held (source : LineSource) : List Char :=
  charsFrom source.line.toList 0 source.cursor

/-- The characters not yet taken. -/
def unread (source : LineSource) : List Char :=
  source.held ++ if source.finished then [] else source.stream.text

/-- Hold what was read from the stream. The second component is the failure that this met. -/
def hold (source : LineSource) (stream : ByteStream) : LineRead → LineSource × Option StreamError
  | .line text => ({ source with stream, line := text, cursor := 0 }, none)
  | .ended => ({ source with stream, line := "", cursor := 0, finished := true }, none)
  | .failed error =>
      ({ stream, line := "", cursor := 0, finished := true, error := some error }, some error)

/-- Fetch the next line of the stream. -/
def fetch (source : LineSource) : LineSource × Option StreamError :=
  let read := source.stream.readLine
  source.hold read.2 read.1

/-- Make sure that there is a character at the cursor, unless the stream is over. -/
def fill (source : LineSource) : LineSource × Option StreamError :=
  match source.cursor.get? source.line with
  | some _ => (source, none)
  | none => if source.finished then (source, none) else source.fetch

/-- Take the next character. -/
def next (source : LineSource) : Pull LineSource :=
  let filled := source.fill
  match filled.1.cursor.get? filled.1.line with
  | some char =>
      { char := some char
        failure := filled.2
        source := { filled.1 with cursor := filled.1.cursor + char } }
  | none => { char := none, failure := filled.2, source := filled.1 }

/-- See the next character. -/
def peek (source : LineSource) : Pull LineSource :=
  let filled := source.fill
  { char := filled.1.cursor.get? filled.1.line, failure := filled.2, source := filled.1 }

/-- Take the failure that finished the source; it is given away once. -/
def takeError (source : LineSource) : Option StreamError × LineSource :=
  (source.error, { source with error := none })

end LineSource

/-- Looking at a position gives the first character from there on. -/
theorem utf8GetAux?_eq_head? (chars : List Char) (start cursor : String.Pos.Raw) :
    String.Pos.Raw.utf8GetAux? chars start cursor = (charsFrom chars start cursor).head? := by
  induction chars generalizing start with
  | nil => rfl
  | cons char chars ih =>
      change (if start = cursor then some char
        else String.Pos.Raw.utf8GetAux? chars (start + char) cursor) = _
      simp only [charsFrom]
      split
      · rfl
      · exact ih _

/-- Nothing is found in front of the first character. -/
theorem charsFrom_of_lt {chars : List Char} {start cursor : String.Pos.Raw}
    (h : cursor.byteIdx < start.byteIdx) : charsFrom chars start cursor = [] := by
  induction chars generalizing start with
  | nil => rfl
  | cons char chars ih =>
      simp only [charsFrom]
      rw [if_neg (by intro heq; subst heq; omega)]
      exact ih (by simp only [String.Pos.Raw.byteIdx_add_char]; omega)

/-- The text from the position of its first character is the whole text. -/
@[simp] theorem charsFrom_self (chars : List Char) (start : String.Pos.Raw) :
    charsFrom chars start start = chars := by
  cases chars <;> simp [charsFrom]

/-- Moving a position over the character found there leaves the text behind that character. -/
theorem charsFrom_advance {chars rest : List Char} {char : Char}
    {start cursor : String.Pos.Raw} (h : charsFrom chars start cursor = char :: rest) :
    charsFrom chars start (cursor + char) = rest := by
  induction chars generalizing start with
  | nil => simp [charsFrom] at h
  | cons first chars ih =>
      simp only [charsFrom] at h
      have hsize := char.utf8Size_pos
      have hfirst := first.utf8Size_pos
      split at h
      · rename_i heq
        subst heq
        simp only [List.cons.injEq] at h
        obtain ⟨rfl, rfl⟩ := h
        simp only [charsFrom]
        rw [if_neg (by
          intro heq
          have := congrArg String.Pos.Raw.byteIdx heq
          simp only [String.Pos.Raw.byteIdx_add_char] at this
          omega)]
        simp
      · have hle : start.byteIdx + first.utf8Size ≤ cursor.byteIdx := by
          by_cases hlt : cursor.byteIdx < (start + first).byteIdx
          · rw [charsFrom_of_lt hlt] at h
            simp at h
          · simp only [String.Pos.Raw.byteIdx_add_char] at hlt
            omega
        simp only [charsFrom]
        rw [if_neg (by
          intro heq
          have := congrArg String.Pos.Raw.byteIdx heq
          simp only [String.Pos.Raw.byteIdx_add_char] at this
          omega)]
        exact ih h

namespace LineSource

/-- The character at the cursor is the first one of the rest of the line. -/
theorem get?_cursor (source : LineSource) :
    source.cursor.get? source.line = source.held.head? :=
  utf8GetAux?_eq_head? _ _ _

/-- Fetching a line when nothing is left in hand does not change what is unread. -/
theorem unread_fetch {source : LineSource} (hheld : source.held = [])
    (hopen : source.finished = false) : source.fetch.1.unread = source.unread := by
  unfold unread
  rw [hheld, hopen]
  simp only [Bool.false_eq_true, if_false, List.nil_append]
  cases hread : source.stream.readLine.1 with
  | line text => simp [fetch, hread, hold, held, hopen, ByteStream.text_of_line hread]
  | ended => simp [fetch, hread, hold, held, ByteStream.text_of_ended hread]
  | failed error => simp [fetch, hread, hold, held, ByteStream.text_of_failed hread]

/-- Filling does not change what is unread. -/
@[simp] theorem unread_fill (source : LineSource) : source.fill.1.unread = source.unread := by
  unfold fill
  rw [get?_cursor]
  cases hheld : source.held with
  | cons _ _ => rfl
  | nil =>
      cases hfinished : source.finished with
      | true => rfl
      | false => exact unread_fetch hheld hfinished

/-- After filling, the character at the cursor is the first unread one. -/
theorem get?_cursor_fill (source : LineSource) :
    source.fill.1.cursor.get? source.fill.1.line = source.fill.1.unread.head? := by
  rw [get?_cursor]
  unfold fill
  rw [get?_cursor]
  cases hheld : source.held with
  | cons _ _ => simp [hheld, unread]
  | nil =>
      cases hfinished : source.finished with
      | true => simp [hheld, unread, hfinished]
      | false =>
          simp only [List.head?_nil, Bool.false_eq_true, if_false]
          cases hread : source.stream.readLine.1 with
          | ended => simp [fetch, hread, hold, held, unread]
          | failed error => simp [fetch, hread, hold, held, unread]
          | line text =>
              have hdecode : source.stream.readSegment.1.decode = .line text := hread
              obtain ⟨char, rest, hchars⟩ := List.exists_cons_of_ne_nil
                (Segment.toList_ne_nil_of_decode hdecode)
              simp [fetch, hread, hold, held, unread, hchars]

/-- The lines of a stream are a source of their characters. -/
instance : CharSource LineSource where
  next := next
  peek := peek
  unread := unread
  char_next source := by
    rw [← unread_fill, ← get?_cursor_fill]
    unfold next
    cases h : source.fill.1.cursor.get? source.fill.1.line <;> simp [h]
  unread_next source := by
    rw [← unread_fill source]
    have hget := get?_cursor_fill source
    have hcursor := get?_cursor source.fill.1
    unfold next
    cases hheld : source.fill.1.held with
    | nil =>
        rw [hheld] at hcursor
        simp only [hcursor, List.head?_nil]
        rw [hcursor] at hget
        cases hunread : source.fill.1.unread with
        | nil => rfl
        | cons _ _ => rw [hunread] at hget; simp at hget
    | cons char rest =>
        rw [hheld] at hcursor
        simp only [hcursor, List.head?_cons]
        have hadvance := charsFrom_advance hheld
        simp only [unread, held]
        rw [hadvance, ← held, hheld]
        rfl
  char_peek source := by
    rw [← unread_fill, ← get?_cursor_fill]
    rfl
  unread_peek source := unread_fill source

end LineSource

end Delimited
